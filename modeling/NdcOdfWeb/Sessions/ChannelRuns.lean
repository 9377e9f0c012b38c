import NdcOdfWeb.Sessions.SessionChannels

/-! The steps of both processes as steps of the sessions' channels, and what follows for the
messages that are forwarded to the kit.
-/

namespace NdcOdfWeb.Sessions

open NdcOdfWeb.Foundation
open NdcOdfWeb.Protocol
open NdcOdfWeb.Queue
open TileQueue

variable {viewIdOf : Text → Except Exception Text} {decode : Text → Text}
  {names : DocumentNames}

-----------------------------------------------------------------------------------------
-- The kit
-----------------------------------------------------------------------------------------

/-- The words of a message, written out. -/
theorem spaced_three (head first second third : Text)
    : head ++ ' ' :: first ++ ' ' :: second ++ ' ' :: third
      = head ++ spaced ' ' [first, second, third] := by
  simp

/-- The message for a new session, as the kit reads it. -/
theorem handleMessage_session (names : DocumentNames) (kit : KitProcess) (id : SessionId)
    : kit.handleMessage viewIdOf decode ((ToKit.session id).text names)
      = some (kit.createSession id.text (decode names.docKey)) := by
  have session : LineWord ' ' "session".toList := by decide
  have shape
      : (ToKit.session id).text names
        = "session".toList ++ spaced ' ' [id.text, names.docKey, names.docId] :=
    spaced_three _ _ _ _
  have words : ∀ word ∈ [id.text, names.docKey, names.docId], LineWord ' ' word := by
    simp only [List.forall_mem_cons]
    exact ⟨id.word, names.docKey_word, names.docId_word, List.forall_mem_nil _⟩
  have some' : "session".toList ≠ [] := by decide
  have nonempty
      : ∀ word ∈ ["session".toList, id.text, names.docKey, names.docId],
          decide (word ≠ []) = true := by
    simp only [List.forall_mem_cons, decide_eq_true_iff]
    exact ⟨some', id.nonempty, names.docKey_nonempty, names.docId_nonempty,
      List.forall_mem_nil _⟩
  have tokens := tokenize_spaced (by decide) session words
  rw [← shape, List.filter_eq_self.mpr nonempty] at tokens
  rw [KitProcess.handleMessage, tokens]
  simp only
  rw [if_pos trivial]

/-- The first token of a message for a session names it. -/
theorem getFirstToken_child (names : DocumentNames) (id : SessionId) (message : Text)
    : getFirstToken ' ' ((ToKit.child id message).text names) = "child-".toList ++ id.text := by
  have start : LineWord ' ' "child-".toList := by decide
  have clean : ' ' ∉ "child-".toList ++ id.text := (start.append id.word).1
  have found := getFirstToken_spaced clean [message]
  rw [spaced_cons, spaced_nil, List.append_nil] at found
  exact found

/-- A message for a session goes to the end of the queue. -/
theorem put_child (viewIdOf : Text → Except Exception Text) (names : DocumentNames)
    (queue : TileQueue) (id : SessionId) (message : Text)
    : queue.put viewIdOf ((ToKit.child id message).text names)
      = .ok { queue with queue := queue.queue ++ [(ToKit.child id message).text names] } := by
  have first := getFirstToken_child names id message
  have differs (command : Text) (other : ¬ "child-".toList <+: command)
      : "child-".toList ++ id.text ≠ command := by
    rintro rfl
    exact other (List.prefix_append _ _)
  have some' : (ToKit.child id message).text names ≠ [] := by
    intro empty
    rw [empty] at first
    exact List.append_ne_nil_of_right_ne_nil _ id.nonempty first.symm
  have put
      : TileQueue.putMessage viewIdOf queue.queue ((ToKit.child id message).text names)
        = .ok (queue.queue ++ [(ToKit.child id message).text names]) := by
    rw [TileQueue.putMessage, first, if_neg (differs _ (by decide)), if_neg (differs _ (by decide)),
      if_neg (differs _ (by decide)), if_neg (differs _ (by decide))]
  rw [TileQueue.put, if_neg some', put]
  rfl

/-- The message for a session, as the kit reads it: it is queued once there is a document. -/
theorem handleMessage_child (names : DocumentNames) (kit : KitProcess) (id : SessionId)
    (message : Text)
    : kit.handleMessage viewIdOf decode ((ToKit.child id message).text names)
      = some
          (if kit.url = none then kit
          else
            {
              kit with
              queue :=
                {
                  kit.queue with
                  queue := kit.queue.queue ++ [(ToKit.child id message).text names]
                }
            }) := by
  have notSession : "child-".toList ++ id.text ≠ "session".toList := by
    intro same
    cases congrArg List.head? same
  have child : getFirstToken '-' ("child-".toList ++ id.text) = "child".toList := by
    have address : "child-".toList = "child".toList ++ ['-'] := by decide
    have found := getFirstToken_spaced (show '-' ∉ "child".toList by decide) [id.text]
    rw [spaced_cons, spaced_nil, List.append_nil] at found
    rw [address, List.append_assoc, List.singleton_append]
    exact found
  rw [KitProcess.handleMessage, tokenize_child]
  simp only
  rw [if_neg notSession, if_pos (.inr child), put_child]
  split <;> rfl

/-- A request for tiles leaves the kit's sessions as they are, and may be put into the queue. -/
theorem handleMessage_tiles {kit next : KitProcess} {message : TilesMessage}
    (done : kit.handleMessage viewIdOf decode message.text = some next)
    : next.url = kit.url ∧ next.sessions = kit.sessions
      ∧ (next.queue = kit.queue
        ∨ TileQueue.putMessage viewIdOf kit.queue.queue message.text
          = .ok next.queue.queue) := by
  obtain ⟨first, member, head⟩ := message.command
  obtain ⟨tokens, shape⟩ : ∃ tokens, tokenize ' ' message.text = first :: tokens := by
    cases found : tokenize ' ' message.text with
    | nil =>
        rw [found] at head
        cases head
    | cons token tokens =>
        rw [found, List.head?_cons, Option.some.injEq] at head
        exact ⟨tokens, by rw [head]⟩
  have notSession : first ≠ "session".toList := by
    rintro rfl
    exact absurd member (by decide)
  rw [KitProcess.handleMessage, shape] at done
  simp only at done
  rw [if_neg notSession, if_pos (.inl member)] at done
  split at done
  · cases done
    exact ⟨rfl, rfl, .inl rfl⟩
  · split at done
    · next queue put =>
        cases done
        exact ⟨rfl, rfl, .inr (put_eq_ok put)⟩
    · cases done
      exact ⟨rfl, rfl, .inl rfl⟩

/-- A message without a name in its first token is for no session. -/
theorem parse_none_item {first input : Text} {tokens : List Text}
    (shape : tokenize ' ' input = first :: tokens)
    (unnamed : parseNameValuePairAt '-' first = none) (sessionId : Text)
    : childItem sessionId input = none := by
  unfold childItem
  rw [shape]
  simp only [unnamed]

/-- A message with a name in its first token is for the session that it names. -/
theorem parse_some_item {first input name addressee : Text} {tokens : List Text}
    (shape : tokenize ' ' input = first :: tokens)
    (named : parseNameValuePairAt '-' first = some (name, addressee)) (sessionId : Text)
    : childItem sessionId input
      = if name = "child".toList ∧ addressee = sessionId then
          some (itemOf (dropBlanks (input.drop first.length)))
        else none := by
  unfold childItem
  rw [shape]
  simp only [named]

/-- What a session has handled, of all that was handled. -/
def handledOf (id : SessionId) (handled : List (Text × Text)) : List Text :=
  handled.filterMap (fun (other, data) => if other = id.text then some data else none)

/-- A step without messages hands nothing over. -/
theorem handledOf_nil (channel : SessionChannel) (id : SessionId)
    : channel.handled ++ handledOf id [] = channel.handled :=
  List.append_nil _

/-- A message of the session itself. -/
theorem handledOf_self (id : SessionId) (data : Text) : handledOf id [(id.text, data)] = [data] := by
  simp [handledOf]

/-- A message of another session. -/
theorem handledOf_other {id : SessionId} {addressee : Text} (differs : addressee ≠ id.text)
    (data : Text)
    : handledOf id [(addressee, data)] = [] := by
  simp [handledOf, differs]

/-- `forwardToChild` takes the first item of the addressed session, and leaves the others alone. -/
theorem forwardToChild_step {keeps : Prop} {channel : SessionChannel} {kit next : KitProcess}
    {handled : List (Text × Text)} {first input : Text} {tokens : List Text}
    (shape : tokenize ' ' input = first :: tokens)
    (done : kit.forwardToChild first input = (next, handled)) (nodup : kit.sessions.Nodup)
    {id : SessionId} (inKit : channel.inKit = decide (id.text ∈ kit.sessions))
    {rest : List ChannelItem} (queued : channel.queued = (childItem id.text input).toList ++ rest)
    : SessionStep keeps channel
        {
          channel with
          inKit := decide (id.text ∈ next.sessions)
          queued := rest
          handled := channel.handled ++ handledOf id handled
        } := by
  have unchanged (none' : childItem id.text input = none)
      (same : id.text ∈ next.sessions ↔ id.text ∈ kit.sessions)
      (nothing : handledOf id handled = [])
      : SessionStep keeps channel
          {
            channel with
            inKit := decide (id.text ∈ next.sessions)
            queued := rest
            handled := channel.handled ++ handledOf id handled
          } := by
    rw [none'] at queued
    refine .cast .same (SessionChannel.ext rfl rfl ?_ rfl queued.symm rfl ?_)
    · rw [inKit]
      exact decide_eq_decide.mpr same
    · rw [nothing]
      exact List.append_nil _
  unfold KitProcess.forwardToChild at done
  dsimp only at done
  split at done
  · next parsed =>
      cases done
      exact unchanged (parse_none_item shape parsed id.text) .rfl rfl
  · next name addressee parsed =>
      have item := parse_some_item shape parsed id.text
      by_cases addressed : name = "child".toList ∧ addressee = id.text
      · obtain ⟨rfl, rfl⟩ := addressed
        rw [item, if_pos ⟨rfl, rfl⟩] at queued
        split at done
        · next found =>
            have present : channel.inKit = true := inKit.trans (decide_eq_true found.2)
            split at done
            · next ends =>
                cases done
                have absent : id.text ∉ kit.sessions.erase id.text := nodup.not_mem_erase
                have disconnects : itemOf (dropBlanks (input.drop first.length)) = .disconnect :=
                  if_pos ends
                rw [disconnects] at queued
                simp only [decide_eq_false absent, handledOf_nil]
                exact .left queued present
            · next other =>
                cases done
                have message
                    : itemOf (dropBlanks (input.drop first.length))
                      = .message (dropBlanks (input.drop first.length)) :=
                  SessionChannel.itemOf_message other
                rw [message] at queued
                refine .cast (.handled queued present) ?_
                exact SessionChannel.ext rfl rfl (inKit.symm) rfl rfl rfl
                  (congrArg (channel.handled ++ ·) (handledOf_self id _))
        · next other =>
            cases done
            have absent : id.text ∉ kit.sessions := fun here => other ⟨rfl, here⟩
            have missing : channel.inKit = false := inKit.trans (decide_eq_false absent)
            refine .cast (.unknown queued missing) ?_
            exact SessionChannel.ext rfl rfl inKit.symm rfl rfl rfl (handledOf_nil channel id)
      · have none' : childItem id.text input = none := item.trans (if_neg addressed)
        split at done
        · next found =>
            have differs : addressee ≠ id.text := fun same => addressed ⟨found.1, same⟩
            split at done
            · cases done
              exact unchanged none' (List.mem_erase_of_ne differs.symm) rfl
            · cases done
              exact unchanged none' .rfl (handledOf_other differs _)
        · cases done
          exact unchanged none' .rfl rfl

/-- The loop of the kit changes the sessions only, and only removes some. -/
theorem forwardToChild_frame (kit : KitProcess) (first input : Text)
    : (kit.forwardToChild first input).1.url = kit.url
      ∧ (kit.forwardToChild first input).1.queue = kit.queue
      ∧ (kit.forwardToChild first input).1.sessions.Sublist kit.sessions := by
  unfold KitProcess.forwardToChild
  dsimp only
  split
  · exact ⟨rfl, rfl, .refl _⟩
  · split
    · split
      · exact ⟨rfl, rfl, List.erase_sublist⟩
      · exact ⟨rfl, rfl, .refl _⟩
    · exact ⟨rfl, rfl, .refl _⟩

/-- The first token of a tile request starts with `tile`. -/
theorem first_of_tile {payload token : Text} {tokens : List Text} (tile : isTile payload = true)
    (words : tokenize ' ' payload = token :: tokens)
    : "tile".toList <+: token := by
  rw [isTile, matchPrefix, List.isPrefixOf_iff_prefix] at tile
  obtain ⟨rest, rfl⟩ := tile
  have start : LineWord ' ' "tile".toList := by decide
  obtain ⟨word, more, shape⟩ := tokenize_start start (by decide) rest
  obtain ⟨rfl, -⟩ := List.cons.inj (words.symm.trans shape)
  exact List.prefix_append _ _

/-- Such a token does not name a session. -/
theorem getFirstToken_of_tile {token : Text} (starts : "tile".toList <+: token)
    : getFirstToken '-' token ≠ "child".toList := by
  obtain ⟨rest, rfl⟩ := starts
  intro same
  cases congrArg List.head? same

/-- A pass of the kit's loop takes no message for a session, or the first one of the queue. -/
theorem run_cases {kit next : KitProcess} {handled : List (Text × Text)} {fails : Bool}
    (done : kit.run fails = some (next, handled))
    : (next.url = kit.url ∧ next.sessions = kit.sessions ∧ handled = []
        ∧ ∀ id, childItems id next.queue.queue = childItems id kit.queue.queue)
      ∨ ∃ input rest first tokens,
          kit.queue.queue = input :: rest
          ∧ tokenize ' ' input = first :: tokens
          ∧ next.queue.queue = rest
          ∧ next.url = kit.url
          ∧ ({ kit with queue := next.queue } : KitProcess).forwardToChild first input
            = (next, handled) := by
  unfold KitProcess.run at done
  split at done
  · next running =>
      unfold TileQueue.get at done
      cases shape : kit.queue.queue with
      | nil =>
          rw [shape] at done
          cases done
      | cons front rest =>
          rw [shape] at done
          dsimp only at done
          rcases childItems_getMessage shape with first | ⟨same, tiles⟩
          · rw [first] at done
            dsimp only at done
            split at done
            · cases done
            · next token tokens words =>
                have nothing (other : getFirstToken '-' token ≠ "child".toList) (id : Text)
                    : childItems id rest = childItems id (front :: rest) :=
                  (childItems_cons_none (childItem_of_first words other) rest).symm
                split at done
                · next eof =>
                    cases done
                    have other : getFirstToken '-' token ≠ "child".toList := by
                      rw [eof]
                      decide
                    exact .inl ⟨rfl, rfl, rfl, nothing other⟩
                · split at done
                  · have result := Option.some.inj done
                    have frame := forwardToChild_frame
                      { kit with queue := { kit.queue with queue := rest } } token front
                    rw [result] at frame
                    refine .inr ⟨front, rest, token, tokens, rfl, words, ?_, frame.1, ?_⟩
                    · rw [frame.2.1]
                    · rw [frame.2.1]
                      exact result
                  · next other =>
                      cases done
                      exact .inl ⟨rfl, rfl, rfl, nothing other⟩
          · cases got : (kit.queue.getMessage front rest).1 with
            | error exception =>
                rw [got] at done
                cases done
                exact .inl ⟨rfl, rfl, rfl, fun id => (same id).trans (by rw [shape])⟩
            | ok payload =>
                have tile := tiles payload got
                rw [got] at done
                dsimp only at done
                split at done
                · cases done
                · next token tokens words =>
                    have starts := first_of_tile tile words
                    split at done
                    · next eof =>
                        rw [eof] at starts
                        exact absurd starts (by decide)
                    · split at done
                      · next child =>
                          exact absurd child (getFirstToken_of_tile starts)
                      · cases done
                        exact .inl ⟨rfl, rfl, rfl, fun id => (same id).trans (by rw [shape])⟩
  · cases done

-----------------------------------------------------------------------------------------
-- Both processes
-----------------------------------------------------------------------------------------

namespace Channels

/-- The channel of a session. -/
def channel (system : Channels) (id : SessionId) : SessionChannel where
  used := decide (id ∈ system.used)
  inBroker := decide (id ∈ system.sessions)
  inKit := decide (id.text ∈ system.kit.sessions)
  onWire := system.toKit.filterMap (ToKit.item id)
  queued := childItems id.text system.kit.queue.queue
  forwarded := (system.forwardedFor id).map dropBlanks
  handled := system.handledBy id

/-- The maps of both processes have a session once, and the kit's document is the broker's. -/
structure Sound (decode : Text → Text) (names : DocumentNames) (system : Channels) : Prop where
  used : ∀ id ∈ system.sessions, id ∈ system.used
  sessions : system.sessions.Nodup
  kitSessions : system.kit.sessions.Nodup
  url : system.kit.url = none ∨ system.kit.url = some (decode names.docKey)
  document : system.kit.url = none → system.kit.sessions = []

/-- No message looks like the end of a session, and `canceltiles` finds none in the queue. -/
def KeepsMessages (system : Channels) : ChannelEvent → Prop
  | .forwardToChild _ message => dropBlanks message ≠ "disconnect".toList
  | .received =>
      ∀ request,
        system.toKit.head? = some (.tiles request)
        → SparesChildren system.kit.queue.queue request.text
  | _ => True

/-- At first, there are no sessions. -/
theorem sound_start : start.Sound decode names where
  used _ member := absurd member List.not_mem_nil
  sessions := List.nodup_nil
  kitSessions := List.nodup_nil
  url := .inl rfl
  document _ := rfl

/-- At first, every session is unknown on both sides. -/
theorem complete_start (id : SessionId) : (start.channel id).Complete :=
  ⟨[], rfl, .gone rfl rfl rfl rfl rfl⟩

/-- A rewritten load is no disconnect. -/
theorem rewriteLoad_other {message rewritten : Text} (done : rewriteLoad names message = some rewritten)
    (other : dropBlanks message ≠ "disconnect".toList)
    : dropBlanks rewritten ≠ "disconnect".toList := by
  unfold rewriteLoad at done
  split at done
  · next command rest tokens =>
      split at done
      · next load =>
          split at done
          · cases done
          · next url rest =>
              cases done
              subst load
              intro same
              cases congrArg List.head? same
      · cases done
        exact other
  · cases done
    exact other

/-- A new session begins its channel; the channels of the others stay. -/
theorem channel_addSession {keeps : Prop} {system : Channels} {added : SessionId}
    (new : added ∉ system.used) {missed : SessionId → Nat} (id : SessionId)
    : SessionStep keeps (system.channel id)
        (channel
          {
            system with
            sessions := system.sessions ++ [added]
            used := added :: system.used
            toKit := system.toKit ++ [.session added]
            missed
          }
          id) := by
  by_cases same : added = id
  · subst same
    refine .cast (.added (decide_eq_false new)) (SessionChannel.ext ?_ ?_ rfl ?_ rfl rfl rfl)
    · exact decide_eq_true List.mem_cons_self
    · exact decide_eq_true (List.mem_append_right _ (List.mem_singleton.mpr rfl))
    · simp [channel, ToKit.item]
  · have others : id ≠ added := fun equal => same equal.symm
    refine .cast .same (SessionChannel.ext ?_ ?_ rfl ?_ rfl rfl rfl)
    · simp [channel, others]
    · simp [channel, others]
    · simp [channel, ToKit.item, same]

/-- A forwarded message goes into the channel of its sender. -/
theorem channel_forward {keeps : Prop} {system : Channels} {sender : SessionId} {message : Text}
    (here : sender ∈ system.sessions)
    (other : keeps → dropBlanks message ≠ "disconnect".toList) (id : SessionId)
    : SessionStep keeps (system.channel id)
        (channel
          {
            system with
            toKit := system.toKit ++ [.child sender message]
            forwarded := system.forwarded ++ [(sender, message)]
          }
          id) := by
  by_cases same : sender = id
  · subst same
    refine .cast (.forwarded (dropBlanks message) (decide_eq_true here) other)
      (SessionChannel.ext rfl rfl rfl ?_ rfl ?_ rfl)
    · simp [channel, ToKit.item]
    · simp [channel, forwardedFor]
  · refine .cast .same (SessionChannel.ext rfl rfl rfl ?_ rfl ?_ rfl)
    · simp [channel, ToKit.item, same]
    · simp [channel, forwardedFor, same]

/-- A removed session ends its channel with a disconnect. -/
theorem channel_removeSession {keeps : Prop} {system : Channels} {removed : SessionId}
    (nodup : system.sessions.Nodup) (here : removed ∈ system.sessions) (id : SessionId)
    : SessionStep keeps (system.channel id)
        (channel
          {
            system with
            sessions := system.sessions.erase removed
            toKit := system.toKit ++ [.child removed "disconnect".toList]
          }
          id) := by
  by_cases same : removed = id
  · subst same
    have disconnects : itemOf (dropBlanks "disconnect".toList) = .disconnect := by decide
    have wire (message : Text)
        : (system.toKit ++ [ToKit.child removed message]).filterMap (ToKit.item removed)
          = system.toKit.filterMap (ToKit.item removed) ++ [itemOf (dropBlanks message)] := by
      simp [ToKit.item]
    refine .cast (.removed (decide_eq_true here)) (SessionChannel.ext rfl ?_ rfl ?_ rfl rfl rfl)
    · exact decide_eq_false nodup.not_mem_erase
    · exact (wire _).trans (by rw [disconnects]; rfl)
  · have others : id ≠ removed := fun equal => same equal.symm
    refine .cast .same (SessionChannel.ext rfl ?_ rfl ?_ rfl rfl rfl)
    · exact decide_eq_decide.mpr (List.mem_erase_of_ne others)
    · simp [channel, ToKit.item, same]

/-- The kit creates a session once, and stays with its document. -/
theorem createSession_sessions {kit : KitProcess} {url : Text} (sessionId : Text)
    (document : kit.url = none ∨ kit.url = some url)
    : (kit.createSession sessionId url).url = some url
      ∧ (kit.createSession sessionId url).queue = kit.queue
      ∧ (kit.createSession sessionId url).sessions
        = if sessionId ∈ kit.sessions then kit.sessions else kit.sessions ++ [sessionId] := by
  have same : some (kit.url.getD url) = some url := by
    rcases document with none' | some'
    · rw [none']
      rfl
    · rw [some']
      rfl
  unfold KitProcess.createSession
  dsimp only
  split
  · next absent => exact ⟨same, rfl, (if_neg absent.2).symm⟩
  · next present =>
      refine ⟨same, rfl, (if_pos ?_).symm⟩
      by_contra absent
      exact present ⟨same, absent⟩

/-- Of a part of the queue, a part of the messages for a session is left. -/
theorem childItems_sublist {sessionId : Text} {queue left : List Payload}
    (sublist : left.Sublist queue)
    : (childItems sessionId left).Sublist (childItems sessionId queue) :=
  sublist.filterMap _

/-- A message about tiles is for no session. -/
theorem childItem_tiles (message : TilesMessage) (sessionId : Text)
    : childItem sessionId message.text = none := by
  obtain ⟨first, member, head⟩ := message.command
  cases words : tokenize ' ' message.text with
  | nil =>
      rw [words] at head
      cases head
  | cons token tokens =>
      rw [words, List.head?_cons, Option.some.injEq] at head
      subst head
      have others : ∀ command ∈ queuedCommands, getFirstToken '-' command ≠ "child".toList := by
        decide
      exact childItem_of_first words (others token member)

/-- A cancellation only removes messages from the queue. -/
theorem putMessage_cancels {queue next : List Payload} {message : Payload}
    (first : getFirstToken ' ' message = "canceltiles".toList)
    (done : TileQueue.putMessage viewIdOf queue message = .ok next)
    : next.Sublist queue := by
  rw [TileQueue.putMessage, first, if_pos rfl] at done
  obtain ⟨seqs, -, removed⟩ := bind_ok done
  cases removed
  exact List.filter_sublist

/-- The kit takes a message from the wire. -/
theorem channel_received {keeps : Prop} {system : Channels} (sound : system.Sound decode names)
    {message : ToKit} {toKit : List ToKit} (first : system.toKit = message :: toKit)
    (spares
      : keeps
        → ∀ request, message = .tiles request → SparesChildren system.kit.queue.queue request.text)
    {kit : KitProcess}
    (done : system.kit.handleMessage viewIdOf decode (message.text names) = some kit)
    (id : SessionId)
    : SessionStep keeps (system.channel id) (channel { system with toKit, kit } id) := by
  have wire {item : ChannelItem} (found : message.item id = some item)
      : (system.channel id).onWire = item :: toKit.filterMap (ToKit.item id) := by
    rw [channel, first, List.filterMap_cons_some found]
  have noWire (other : message.item id = none)
      : toKit.filterMap (ToKit.item id) = (system.channel id).onWire := by
    rw [channel, first, List.filterMap_cons_none other]
  cases message with
  | session created =>
      rw [handleMessage_session] at done
      cases done
      obtain ⟨-, queue, sessions⟩ :=
        createSession_sessions created.text sound.url
      have queued (id : SessionId)
          : childItems id.text
              (system.kit.createSession created.text (decode names.docKey)).queue.queue
            = childItems id.text system.kit.queue.queue := by
        rw [queue]
      by_cases same : created = id
      · subst same
        refine .cast (.created (wire (if_pos rfl)))
          (SessionChannel.ext rfl rfl (decide_eq_true ?_) rfl (queued created) rfl rfl)
        rw [sessions]
        split
        · assumption
        · exact List.mem_append_right _ (List.mem_singleton.mpr rfl)
      · have differs : id.text ≠ created.text := fun equal => same (SessionId.ext_text equal).symm
        refine .cast .same
          (SessionChannel.ext rfl rfl (decide_eq_decide.mpr ?_) (noWire (if_neg same)) (queued id)
            rfl rfl)
        rw [sessions]
        split
        · exact .rfl
        · simp [differs]
  | child addressee data =>
      rw [handleMessage_child] at done
      cases done
      split
      · next noDocument =>
          by_cases same : addressee = id
          · subst same
            have absent : addressee.text ∉ system.kit.sessions := by
              rw [sound.document noDocument]
              exact List.not_mem_nil
            refine .cast (.lost (wire (if_pos rfl)) (decide_eq_false absent) ?_)
              (SessionChannel.ext rfl rfl rfl rfl rfl rfl rfl)
            unfold itemOf
            split <;> exact nofun
          · exact .cast .same
              (SessionChannel.ext rfl rfl rfl (noWire (if_neg same)) rfl rfl rfl)
      · have queued (id : SessionId)
            : childItems id.text
                (system.kit.queue.queue ++ [(ToKit.child addressee data).text names])
              = childItems id.text system.kit.queue.queue
                ++ ((ToKit.child addressee data).item id).toList := by
          rw [childItems_append, childItems_single, childItem_child]
        by_cases same : addressee = id
        · subst same
          have item : (ToKit.child addressee data).item addressee = some (itemOf (dropBlanks data)) :=
            if_pos rfl
          have added := queued addressee
          rw [item] at added
          refine .cast (.queued (wire item) ?_)
            (SessionChannel.ext rfl rfl rfl rfl added rfl rfl)
          unfold itemOf
          split <;> exact nofun
        · have item : (ToKit.child addressee data).item id = none := if_neg same
          have kept := queued id
          rw [item] at kept
          exact .cast .same
            (SessionChannel.ext rfl rfl rfl (noWire item) (kept.trans (List.append_nil _)) rfl rfl)
  | tiles request =>
      obtain ⟨-, sessions, put⟩ := handleMessage_tiles done
      have inKit : decide (id.text ∈ kit.sessions) = (system.channel id).inKit := by
        rw [sessions]
        rfl
      rcases put with same | put
      · exact .cast .same (SessionChannel.ext rfl rfl inKit (noWire rfl)
          (congrArg (fun queue : TileQueue => childItems id.text queue.queue) same) rfl rfl)
      · by_cases spared : SparesChildren system.kit.queue.queue request.text
        · have kept := childItems_putMessage spared put id
          rw [childItem_tiles] at kept
          exact .cast .same
            (SessionChannel.ext rfl rfl inKit (noWire rfl) (kept.trans (List.append_nil _)) rfl rfl)
        · have cancels : getFirstToken ' ' request.text = "canceltiles".toList := by
            by_contra other
            exact spared (fun first => absurd first other)
          exact .cast
            (.canceled (childItems_sublist (putMessage_cancels cancels put))
              (fun keeps' => spared (spares keeps' request rfl)))
            (SessionChannel.ext rfl rfl inKit (noWire rfl) rfl rfl rfl)

/-- A pass of the kit's loop. -/
theorem channel_run {keeps : Prop} {system : Channels} (nodup : system.kit.sessions.Nodup)
    {fails : Bool} {kit : KitProcess} {handled : List (Text × Text)}
    (done : system.kit.run fails = some (kit, handled)) (id : SessionId)
    : SessionStep keeps (system.channel id)
        (channel { system with kit, handled := system.handled ++ handled } id) := by
  have all (more : List (Text × Text))
      : handledBy { system with kit, handled := system.handled ++ more } id
        = system.handledBy id ++ handledOf id more :=
    List.filterMap_append
  rcases run_cases done with ⟨-, sessions, none', same⟩ | ⟨input, rest, first, tokens, shape, words,
    queue, -, forwarded⟩
  · subst none'
    refine .cast .same (SessionChannel.ext rfl rfl ?_ rfl (same id.text) rfl ?_)
    · exact congrArg (fun sessions => decide (id.text ∈ sessions)) sessions
    · exact (all []).trans (List.append_nil _)
  · have queued
        : (system.channel id).queued
          = (childItem id.text input).toList ++ childItems id.text rest := by
      have split : input :: rest = [input] ++ rest := rfl
      have items : (system.channel id).queued = childItems id.text system.kit.queue.queue := rfl
      rw [items, shape, split, childItems_append, childItems_single]
    refine .cast (forwardToChild_step words forwarded nodup rfl queued)
      (SessionChannel.ext rfl rfl rfl rfl ?_ rfl (all handled))
    exact congrArg (childItems id.text) queue

/-- An answer of the kit is delivered, and nothing else is changed. -/
theorem handleInput_frame {system next : Channels} {text : Text}
    (done : system.handleInput text = some next)
    : ∃ delivered, next = { system with delivered } := by
  unfold handleInput at done
  split at done
  · cases done
  · split at done
    · cases done
      exact ⟨_, rfl⟩
    · split at done
      · cases done
      · cases done
        exact ⟨_, rfl⟩

/-- A step of both processes is one of every session's channel. -/
theorem channel_step {keeps : Prop} {system next : Channels} {event : ChannelEvent}
    (sound : system.Sound decode names) (kept : keeps → KeepsMessages system event)
    (done : system.step viewIdOf decode names event = some next) (id : SessionId)
    : SessionStep keeps (system.channel id) (next.channel id) := by
  cases event with
  | addSession added =>
      rw [step] at done
      split at done
      · cases done
      · next new =>
          cases done
          exact channel_addSession new id
  | forwardToChild sender message =>
      rw [step] at done
      split at done
      · cases done
        exact .same
      · next known =>
          rw [not_or, Decidable.not_not] at known
          obtain ⟨rewritten, found, done⟩ := Option.map_eq_some_iff.mp done
          subst done
          exact channel_forward known.1 (fun keeps' => rewriteLoad_other found (kept keeps')) id
  | removeSession removed =>
      rw [step] at done
      split at done
      · next here =>
          cases done
          exact channel_removeSession sound.sessions here id
      · cases done
        exact .same
  | setLoaded =>
      cases done
      exact .same
  | requestTiles message =>
      cases done
      refine .cast .same (SessionChannel.ext rfl rfl rfl ?_ rfl rfl rfl)
      exact List.filterMap_append.trans (List.append_nil _)
  | received =>
      rw [step] at done
      cases first : system.toKit with
      | nil =>
          rw [first] at done
          cases done
      | cons message toKit =>
          rw [first] at done
          dsimp only at done
          split at done
          · obtain ⟨kit, handled, done⟩ := Option.map_eq_some_iff.mp done
            subst done
            refine channel_received sound first ?_ handled id
            rintro keeps' request rfl
            exact kept keeps' request (by rw [first]; rfl)
          · cases done
  | callback message command =>
      rw [step] at done
      cases put : system.kit.queue.put viewIdOf message with
      | error exception =>
          rw [put] at done
          cases done
          exact .cast .same
            (SessionChannel.ext rfl rfl rfl rfl (childItems_leftMessages _ message _) rfl rfl)
      | ok queue =>
          rw [put] at done
          cases done
          have differs : "callback".toList ≠ "canceltiles".toList := by decide
          have spares : SparesChildren system.kit.queue.queue message :=
            fun cancels => absurd (command.symm.trans cancels) differs
          have starts : "callback".toList <+: message :=
            command ▸ getFirstToken_prefix ' ' message
          have items := childItems_putMessage spares (put_eq_ok put) id
          rw [childItem_callback starts] at items
          exact .cast .same
            (SessionChannel.ext rfl rfl rfl rfl (items.trans (List.append_nil _)) rfl rfl)
  | run fails =>
      obtain ⟨⟨kit, handled⟩, ran, done⟩ := Option.map_eq_some_iff.mp done
      subst done
      exact channel_run sound.kitSessions ran id
  | send message =>
      cases done
      exact .same
  | handleInput =>
      rw [step] at done
      split at done
      · cases done
      · obtain ⟨delivered, rfl⟩ := handleInput_frame done
        exact .same

/-- A new element at the end. -/
theorem nodup_concat {α : Type} {list : List α} (nodup : list.Nodup) {last : α}
    (absent : last ∉ list)
    : (list ++ [last]).Nodup := by
  rw [← List.concat_eq_append]
  exact nodup.concat absent

/-- The sessions of the kit differ, also when one is created. -/
theorem createSession_sound {kit : KitProcess} {sessionId url : Text}
    (document : kit.url = none ∨ kit.url = some url) (nodup : kit.sessions.Nodup)
    : (kit.createSession sessionId url).sessions.Nodup := by
  obtain ⟨-, -, sessions⟩ := createSession_sessions sessionId document
  rw [sessions]
  split
  · exact nodup
  · next absent => exact nodup_concat nodup absent

/-- A message that the kit receives keeps what holds of its sessions, by cases on the messages. -/
theorem Sound.received {system : Channels} (sound : system.Sound decode names) {message : ToKit}
    {kit : KitProcess}
    (done : system.kit.handleMessage viewIdOf decode (message.text names) = some kit)
    : kit.sessions.Nodup ∧ (kit.url = none ∨ kit.url = some (decode names.docKey))
      ∧ (kit.url = none → kit.sessions = []) := by
  cases message with
  | session created =>
      rw [handleMessage_session] at done
      cases done
      obtain ⟨url, -⟩ := createSession_sessions created.text sound.url
      refine ⟨createSession_sound sound.url sound.kitSessions, .inr url, fun none' => ?_⟩
      exact absurd (none'.symm.trans url) nofun
  | child addressee data =>
      rw [handleMessage_child] at done
      cases done
      split <;> exact ⟨sound.kitSessions, sound.url, sound.document⟩
  | tiles request =>
      obtain ⟨url, sessions, -⟩ := handleMessage_tiles done
      rw [url, sessions]
      exact ⟨sound.kitSessions, sound.url, sound.document⟩

/-- The loop of the kit removes sessions at most. -/
theorem run_sessions {kit next : KitProcess} {fails : Bool} {handled : List (Text × Text)}
    (done : kit.run fails = some (next, handled))
    : next.url = kit.url ∧ next.sessions.Sublist kit.sessions := by
  rcases run_cases done with ⟨url, sessions, -⟩ | ⟨input, rest, first, tokens, -, -, -, url,
    forwarded⟩
  · exact ⟨url, sessions ▸ .refl _⟩
  · have frame := forwardToChild_frame { kit with queue := next.queue } first input
    rw [forwarded] at frame
    exact ⟨url, frame.2.2⟩

/-- One step, by cases on the events. -/
theorem sound_step {system next : Channels} {event : ChannelEvent}
    (sound : system.Sound decode names)
    (done : system.step viewIdOf decode names event = some next)
    : next.Sound decode names := by
  cases event with
  | addSession added =>
      rw [step] at done
      split at done
      · cases done
      · next new =>
          cases done
          have absent : added ∉ system.sessions := fun here => new (sound.used added here)
          refine { sound with used := ?_, sessions := ?_ }
          · intro id member
            rcases List.mem_append.mp member with old | last
            · exact List.mem_cons_of_mem _ (sound.used id old)
            · rw [List.mem_singleton.mp last]
              exact List.mem_cons_self
          · exact nodup_concat sound.sessions absent
  | forwardToChild sender message =>
      rw [step] at done
      split at done
      · cases done
        exact sound
      · obtain ⟨rewritten, -, done⟩ := Option.map_eq_some_iff.mp done
        subst done
        exact { sound with }
  | removeSession removed =>
      rw [step] at done
      split at done
      · cases done
        exact
          {
            sound with
            used := fun id member => sound.used id (List.mem_of_mem_erase member)
            sessions := sound.sessions.erase removed
          }
      · cases done
        exact sound
  | setLoaded =>
      cases done
      exact { sound with }
  | requestTiles message =>
      cases done
      exact { sound with }
  | received =>
      rw [step] at done
      split at done
      · cases done
      · split at done
        · obtain ⟨kit, handled, done⟩ := Option.map_eq_some_iff.mp done
          subst done
          obtain ⟨kitSessions, url, document⟩ := sound.received handled
          exact { sound with kitSessions, url, document }
        · cases done
  | callback message command =>
      rw [step] at done
      split at done
      · cases done
        exact { sound with }
      · cases done
        exact { sound with }
  | run fails =>
      obtain ⟨⟨kit, handled⟩, ran, done⟩ := Option.map_eq_some_iff.mp done
      subst done
      obtain ⟨url, sessions⟩ := run_sessions ran
      exact
        {
          sound with
          kitSessions := sound.kitSessions.sublist sessions
          url := url ▸ sound.url
          document := fun none' =>
            List.sublist_nil.mp (sound.document (url ▸ none') ▸ sessions)
        }
  | send message =>
      cases done
      exact { sound with }
  | handleInput =>
      rw [step] at done
      split at done
      · cases done
      · obtain ⟨delivered, rfl⟩ := handleInput_frame done
        exact { sound with }

-----------------------------------------------------------------------------------------
-- Runs
-----------------------------------------------------------------------------------------

/-- What the kit's session handles was forwarded for it, and nothing is handled twice or before an
earlier message that it still waits for.
-/
theorem channels_in_order (viewIdOf : Text → Except Exception Text) (decode : Text → Text)
    (names : DocumentNames) (events : List ChannelEvent)
    : AllStates (step viewIdOf decode names)
        (fun system =>
          ∀ id,
            (system.handledBy id ++ (system.channel id).underWay).Sublist
              ((system.forwardedFor id).map dropBlanks))
        start events := by
  have all
      : AllStates (step viewIdOf decode names)
          (fun system => system.Sound decode names ∧ ∀ id, (system.channel id).InOrder)
          start events := by
    refine allStates_of_keeps ?_ ⟨sound_start, fun id => .refl _⟩ events
    intro system event next ⟨sound, order⟩ done
    have steps (id : SessionId) : SessionStep False (system.channel id) (next.channel id) :=
      channel_step sound False.elim done id
    exact ⟨sound_step sound done, fun id => (order id).step (steps id)⟩
  exact fun done rest reached split ran => (all done rest reached split ran).2

/-- If no message looks like the end of a session and `canceltiles` cancels none, every message that
was forwarded was handled or is under way, in this order; and where nothing is under way, the kit
has a session exactly if the broker does.
-/
theorem channels_lose_nothing (viewIdOf : Text → Except Exception Text) (decode : Text → Text)
    (names : DocumentNames) {events : List ChannelEvent}
    (keeps : AllSteps (step viewIdOf decode names) KeepsMessages start events)
    : AllStates (step viewIdOf decode names)
        (fun system =>
          ∀ id,
            system.handledBy id ++ (system.channel id).underWay
              = (system.forwardedFor id).map dropBlanks
            ∧ ((system.channel id).Idle → (id.text ∈ system.kit.sessions ↔ id ∈ system.sessions)))
        start events := by
  have all
      : AllStates (step viewIdOf decode names)
          (fun system => system.Sound decode names ∧ ∀ id, (system.channel id).Complete)
          start events := by
    refine allStates_of_meets ?_ ⟨sound_start, fun id => complete_start id⟩ keeps
    intro system event next ⟨sound, complete⟩ kept done
    have steps (id : SessionId) : SessionStep True (system.channel id) (next.channel id) :=
      channel_step sound (fun _ => kept) done id
    exact ⟨sound_step sound done, fun id => (complete id).step (steps id)⟩
  intro done rest reached split ran id
  obtain ⟨messages, same, stage⟩ := (all done rest reached split ran).2 id
  refine ⟨?_, fun idle => ?_⟩
  · rw [stage.underWay]
    exact same
  · rw [← decide_eq_decide]
    exact stage.idle idle

/-- A test for `KeepsMessages`: no request about tiles is received. -/
def keepsWithoutTiles (system : Channels) : ChannelEvent → Bool
  | .forwardToChild _ message => dropBlanks message ≠ "disconnect".toList
  | .received =>
      match system.toKit.head? with
      | some (.tiles _) => false
      | _ => true
  | _ => true

/-- The test of the steps, by cases on the events. -/
theorem keepsMessages_of_test (system : Channels) (event : ChannelEvent)
    (passed : keepsWithoutTiles system event = true)
    : KeepsMessages system event := by
  cases event with
  | forwardToChild sender message =>
      have other : dropBlanks message ≠ "disconnect".toList := of_decide_eq_true passed
      exact other
  | received =>
      intro request first
      rw [keepsWithoutTiles, first] at passed
      cases passed
  | _ => trivial

/-- The key of the example is one word. -/
theorem oneDocKey_word : LineWord ' ' "file%3A%2F%2F%2Ftmp%2Fa.odt".toList := by
  decide

/-- The key of the example is not empty. -/
theorem oneDocKey_nonempty : "file%3A%2F%2F%2Ftmp%2Fa.odt".toList ≠ [] := by
  decide

/-- The id of the example is one word. -/
theorem oneDocId_word : LineWord ' ' "1".toList := by
  decide

/-- The id of the example is not empty. -/
theorem oneDocId_nonempty : "1".toList ≠ [] := by
  decide

/-- The jailed uri of the example is one word. -/
theorem oneUriJailed_word : LineWord ' ' "file:///user/docs/a.odt".toList := by
  decide

/-- A document and its session. -/
def oneDocument : DocumentNames where
  docKey := "file%3A%2F%2F%2Ftmp%2Fa.odt".toList
  docId := "1".toList
  uriJailed := "file:///user/docs/a.odt".toList
  uriJailedAnonym := "file:///user/docs/a.odt".toList
  docKey_word := oneDocKey_word
  docKey_nonempty := oneDocKey_nonempty
  docId_word := oneDocId_word
  docId_nonempty := oneDocId_nonempty
  uriJailed_word := oneUriJailed_word
  uriJailedAnonym_word := oneUriJailed_word

def oneSession : SessionId :=
  ⟨"0001".toList, by decide, by decide⟩

/-- A session joins, loads the document and is removed. -/
theorem channels_lose_nothing_load
    : AllStates (step .ok id oneDocument)
        (fun system =>
          ∀ id,
            system.handledBy id ++ (system.channel id).underWay
              = (system.forwardedFor id).map dropBlanks
            ∧ ((system.channel id).Idle → (id.text ∈ system.kit.sessions ↔ id ∈ system.sessions)))
        start
        [.addSession oneSession, .forwardToChild oneSession "load url=file:///tmp/a.odt".toList,
          .received, .received, .run false, .removeSession oneSession, .received, .run false] :=
  channels_lose_nothing .ok id oneDocument
    (AllSteps.of_test keepsMessages_of_test (by decide +kernel))

example
    : (stepRun (step .ok id oneDocument) start
        [.addSession oneSession, .forwardToChild oneSession "load url=file:///tmp/a.odt".toList,
          .received, .received, .run false, .removeSession oneSession, .received, .run false]).map
        (fun system => (system.handledBy oneSession, system.kit.sessions))
      = some
          (["load url=file:///tmp/a.odt jail=file:///user/docs/a.odt".toList
              ++ " xjail=file:///user/docs/a.odt ".toList],
            []) := by
  decide +kernel

end Channels

end NdcOdfWeb.Sessions
