import NdcOdfWeb.Sessions.ChildMessages

/-! Each session's part of the connection is a channel of its own: the steps of both processes are
steps of these channels, and a channel hands over every message of its session once and in order.
-/

namespace NdcOdfWeb.Sessions

open NdcOdfWeb.Foundation
open NdcOdfWeb.Protocol
open NdcOdfWeb.Queue
open TileQueue

-----------------------------------------------------------------------------------------
-- The channel of a session
-----------------------------------------------------------------------------------------

/-- A session in both processes, what is on its way to the kit and in the kit's queue for it, and
the messages that were forwarded for it and that it has handled.
-/
@[ext]
structure SessionChannel where
  used : Bool
  inBroker : Bool
  inKit : Bool
  onWire : List ChannelItem
  queued : List ChannelItem
  forwarded : List Text
  handled : List Text

/-- The steps of a channel. If it `keeps` messages, none of them is canceled in the queue, and none
looks like the end of the session.
-/
inductive SessionStep (keeps : Prop) (channel : SessionChannel) : SessionChannel → Prop where
  | same : SessionStep keeps channel channel
  | added (new : channel.used = false)
    : SessionStep keeps channel
        { channel with used := true, inBroker := true, onWire := channel.onWire ++ [.created] }
  | forwarded (data : Text) (here : channel.inBroker = true)
    (other : keeps → data ≠ "disconnect".toList)
    : SessionStep keeps channel
        {
          channel with
          onWire := channel.onWire ++ [itemOf data]
          forwarded := channel.forwarded ++ [data]
        }
  | removed (here : channel.inBroker = true)
    : SessionStep keeps channel
        { channel with inBroker := false, onWire := channel.onWire ++ [.disconnect] }
  | created {rest} (first : channel.onWire = .created :: rest)
    : SessionStep keeps channel { channel with inKit := true, onWire := rest }
  | lost {item rest} (first : channel.onWire = item :: rest) (absent : channel.inKit = false)
    (other : item ≠ .created)
    : SessionStep keeps channel { channel with onWire := rest }
  | queued {item rest} (first : channel.onWire = item :: rest) (other : item ≠ .created)
    : SessionStep keeps channel
        { channel with onWire := rest, queued := channel.queued ++ [item] }
  | canceled {left} (sublist : left.Sublist channel.queued) (loses : ¬ keeps)
    : SessionStep keeps channel { channel with queued := left }
  | handled {data rest} (first : channel.queued = .message data :: rest)
    (here : channel.inKit = true)
    : SessionStep keeps channel
        { channel with queued := rest, handled := channel.handled ++ [data] }
  | left {rest} (first : channel.queued = .disconnect :: rest) (here : channel.inKit = true)
    : SessionStep keeps channel { channel with inKit := false, queued := rest }
  | unknown {item rest} (first : channel.queued = item :: rest) (absent : channel.inKit = false)
    : SessionStep keeps channel { channel with queued := rest }

/-- Equal channels take equal steps. -/
theorem SessionStep.cast {keeps : Prop} {channel next reached : SessionChannel}
    (step : SessionStep keeps channel next) (same : reached = next)
    : SessionStep keeps channel reached :=
  same ▸ step

namespace SessionChannel

/-- The message of an item. -/
def dataOf : ChannelItem → Option Text
  | .message data => some data
  | _ => none

/-- The messages that are under way. -/
def underWay (channel : SessionChannel) : List Text :=
  (channel.queued ++ channel.onWire).filterMap dataOf

/-- What was handled and what is under way was forwarded, in this order. -/
def InOrder (channel : SessionChannel) : Prop :=
  (channel.handled ++ channel.underWay).Sublist channel.forwarded

/-- A message holds the data, the other items hold none. -/
theorem dataOf_itemOf (data : Text)
    : ((dataOf (itemOf data)).toList).Sublist [data] := by
  unfold itemOf
  split
  · exact List.nil_sublist _
  · exact List.Sublist.refl _

/-- Messages may get lost, the others keep their order. -/
theorem InOrder.of_less {channel next : SessionChannel} (order : channel.InOrder)
    (less : (next.handled ++ next.underWay).Sublist (channel.handled ++ channel.underWay))
    (same : next.forwarded = channel.forwarded)
    : next.InOrder := by
  rw [InOrder, same]
  exact less.trans order

/-- The first item on the wire is taken. -/
theorem underWay_tail {channel : SessionChannel} {item : ChannelItem} {rest : List ChannelItem}
    (first : channel.onWire = item :: rest)
    : ((channel.queued ++ rest).filterMap dataOf).Sublist channel.underWay := by
  rw [underWay, first]
  exact ((List.sublist_cons_self item rest).append_left _).filterMap dataOf

/-- Messages are erased from the queue. -/
theorem underWay_queued {channel : SessionChannel} {left : List ChannelItem}
    (sublist : left.Sublist channel.queued)
    : ((left ++ channel.onWire).filterMap dataOf).Sublist channel.underWay :=
  (sublist.append_right _).filterMap dataOf

/-- No step of a channel duplicates, reorders or changes messages. -/
theorem InOrder.step {keeps : Prop} {channel next : SessionChannel} (order : channel.InOrder)
    (step : SessionStep keeps channel next)
    : next.InOrder := by
  cases step with
  | same => exact order
  | added new =>
      refine order.of_less ?_ rfl
      simp [underWay, dataOf]
  | forwarded data here other =>
      rw [InOrder, underWay] at order ⊢
      simp only
      rw [← List.append_assoc, List.filterMap_append, ← List.append_assoc]
      refine List.Sublist.append order ?_
      rw [List.filterMap_cons, List.filterMap_nil]
      have data' := dataOf_itemOf data
      cases found : dataOf (itemOf data) with
      | none => exact List.nil_sublist _
      | some message =>
          rw [found] at data'
          exact data'
  | removed here =>
      refine order.of_less ?_ rfl
      simp [underWay, dataOf]
  | created first => exact order.of_less ((underWay_tail first).append_left _) rfl
  | lost first => exact order.of_less ((underWay_tail first).append_left _) rfl
  | @queued item rest first other =>
      refine order.of_less ?_ rfl
      rw [underWay, underWay, first, List.append_assoc, List.singleton_append]
  | canceled sublist loses => exact order.of_less ((underWay_queued sublist).append_left _) rfl
  | @handled data rest first here =>
      refine order.of_less ?_ rfl
      rw [underWay, underWay, first, List.append_assoc]
      exact List.Sublist.refl _
  | @left rest first here =>
      have fewer : rest.Sublist channel.queued := first ▸ List.sublist_cons_self _ rest
      exact order.of_less ((underWay_queued fewer).append_left _) rfl
  | @unknown item rest first absent =>
      have fewer : rest.Sublist channel.queued := first ▸ List.sublist_cons_self _ rest
      exact order.of_less ((underWay_queued fewer).append_left _) rfl

/-- What follows the last message: the end of the session, once the broker has removed it. -/
def ending (channel : SessionChannel) : List ChannelItem :=
  if channel.inBroker then [] else [.disconnect]

/-- What a channel is between two steps, with the messages under way: the kit has the session, or it
is still to be created, or it is not there, or no more.
-/
inductive Stage (channel : SessionChannel) (messages : List Text) : Prop where
  | created (used : channel.used = true) (here : channel.inKit = true)
    (items
      : channel.queued ++ channel.onWire = messages.map .message ++ channel.ending)
  | starting (used : channel.used = true) (absent : channel.inKit = false)
    (queued : channel.queued = [])
    (onWire : channel.onWire = .created :: (messages.map .message ++ channel.ending))
  | gone (closed : channel.inBroker = false) (absent : channel.inKit = false)
    (queued : channel.queued = []) (onWire : channel.onWire = []) (none' : messages = [])

/-- Every message that was forwarded was handled or is under way, in this order. -/
def Complete (channel : SessionChannel) : Prop :=
  ∃ messages, channel.handled ++ messages = channel.forwarded ∧ channel.Stage messages

/-- All but the disconnect is a message. -/
theorem itemOf_message {data : Text} (other : data ≠ "disconnect".toList)
    : itemOf data = .message data :=
  if_neg other

/-- A session of the broker has not ended. -/
theorem ending_eq_nil {channel : SessionChannel} (here : channel.inBroker = true)
    : channel.ending = [] :=
  if_pos here

/-- The session is created once, before its messages. -/
theorem created_notMem (messages : List Text) (channel : SessionChannel)
    : .created ∉ messages.map ChannelItem.message ++ channel.ending := by
  intro member
  rcases List.mem_append.mp member with message | last
  · obtain ⟨data, -, other⟩ := List.mem_map.mp message
    cases other
  · unfold ending at last
    split at last
    · cases last
    · cases List.mem_singleton.mp last

/-- The stage lists what is under way. -/
theorem Stage.underWay {channel : SessionChannel} {messages : List Text}
    (stage : channel.Stage messages)
    : channel.underWay = messages := by
  have ending : channel.ending.filterMap dataOf = [] := by
    unfold SessionChannel.ending
    split <;> rfl
  have data : (messages.map ChannelItem.message).filterMap dataOf = messages := by
    rw [List.filterMap_map]
    exact List.filterMap_some
  cases stage with
  | created used here items =>
      rw [SessionChannel.underWay, items, List.filterMap_append, data, ending, List.append_nil]
  | starting used absent queued onWire =>
      have skip : dataOf .created = none := rfl
      rw [SessionChannel.underWay, queued, onWire, List.nil_append, List.filterMap_cons_none skip,
        List.filterMap_append, data, ending, List.append_nil]
  | gone closed absent queued onWire none' =>
      rw [SessionChannel.underWay, queued, onWire, none']
      rfl

/-- Nothing is on its way to the session, nor in the kit's queue for it. -/
def Idle (channel : SessionChannel) : Prop :=
  channel.queued ++ channel.onWire = []

/-- Where nothing is under way, both processes agree on the session. -/
theorem Stage.idle {channel : SessionChannel} {messages : List Text}
    (stage : channel.Stage messages) (idle : channel.Idle)
    : channel.inKit = channel.inBroker := by
  cases stage with
  | created used here items =>
      have closed := (List.append_eq_nil_iff.mp (items.symm.trans idle)).2
      unfold SessionChannel.ending at closed
      split at closed
      · next open' => rw [here, open']
      · cases closed
  | starting used absent queued onWire =>
      rw [Idle, queued, onWire] at idle
      cases idle
  | gone closed absent => rw [closed, absent]

/-- A channel that keeps messages loses none in any step. -/
theorem Complete.step {channel next : SessionChannel} (complete : channel.Complete)
    (step : SessionStep True channel next)
    : next.Complete := by
  obtain ⟨messages, same, stage⟩ := complete
  cases step with
  | same => exact ⟨messages, same, stage⟩
  | added new =>
      cases stage with
      | created used => exact absurd (new.symm.trans used) Bool.false_ne_true
      | starting used => exact absurd (new.symm.trans used) Bool.false_ne_true
      | gone closed absent queued onWire none' =>
          subst none'
          refine ⟨[], same, .starting rfl absent queued ?_⟩
          simp [onWire, ending]
  | forwarded data here other =>
      have message := itemOf_message (other trivial)
      have open' := ending_eq_nil here
      refine ⟨messages ++ [data], ?_, ?_⟩
      · simp only [← same, List.append_assoc]
      · cases stage with
        | created used here' items =>
            refine .created used here' ?_
            rw [open', List.append_nil] at items
            simp [ending, here, message, ← List.append_assoc, items]
        | starting used absent queued onWire =>
            refine .starting used absent queued ?_
            simp [ending, here, message, onWire]
        | gone closed => exact absurd (closed.symm.trans here) Bool.false_ne_true
  | removed here =>
      have open' := ending_eq_nil here
      refine ⟨messages, same, ?_⟩
      cases stage with
      | created used here' items =>
          refine .created used here' ?_
          rw [open', List.append_nil] at items
          simp [ending, ← List.append_assoc, items]
      | starting used absent queued onWire =>
          refine .starting used absent queued ?_
          simp [ending, onWire, here]
      | gone closed => exact absurd (closed.symm.trans here) Bool.false_ne_true
  | @created rest first =>
      refine ⟨messages, same, ?_⟩
      cases stage with
      | created used here items =>
          refine absurd ?_ (created_notMem messages channel)
          rw [← items, first]
          exact List.mem_append_right _ List.mem_cons_self
      | starting used absent queued onWire =>
          refine .created used rfl ?_
          rw [queued]
          exact (List.cons.inj (first.symm.trans onWire)).2
      | gone closed absent queued onWire =>
          rw [onWire] at first
          cases first
  | @lost item rest first absent other =>
      refine ⟨messages, same, ?_⟩
      cases stage with
      | created used here => exact absurd (absent.symm.trans here) Bool.false_ne_true
      | starting used absent' queued onWire =>
          exact absurd (List.cons.inj (first.symm.trans onWire)).1 other
      | gone closed absent' queued onWire =>
          rw [onWire] at first
          cases first
  | @queued item rest first other =>
      refine ⟨messages, same, ?_⟩
      cases stage with
      | created used here items =>
          refine .created used here ?_
          rw [first] at items
          rw [List.append_assoc]
          exact items
      | starting used absent queued onWire =>
          exact absurd (List.cons.inj (first.symm.trans onWire)).1 other
      | gone closed absent queued onWire =>
          rw [onWire] at first
          cases first
  | canceled sublist loses => exact absurd trivial loses
  | @handled data rest first here =>
      cases stage with
      | created used here items =>
          rw [first] at items
          cases messages with
          | nil =>
              rw [List.map_nil, List.nil_append, ending] at items
              split at items <;> cases items
          | cons message messages =>
              obtain ⟨head, tail⟩ := List.cons.inj items
              cases head
              refine ⟨messages, ?_, .created used here tail⟩
              rw [List.append_assoc]
              exact same
      | starting used absent => exact absurd (absent.symm.trans here) Bool.false_ne_true
      | gone closed absent => exact absurd (absent.symm.trans here) Bool.false_ne_true
  | @left rest first here =>
      cases stage with
      | created used here items =>
          rw [first] at items
          cases messages with
          | nil =>
              refine ⟨[], same, ?_⟩
              rw [List.map_nil, List.nil_append, ending] at items
              split at items
              · cases items
              · next closed =>
                  rw [Bool.not_eq_true] at closed
                  have none' := List.append_eq_nil_iff.mp (List.cons.inj items).2
                  exact .gone closed rfl none'.1 none'.2 rfl
          | cons message messages => cases (List.cons.inj items).1
      | starting used absent => exact absurd (absent.symm.trans here) Bool.false_ne_true
      | gone closed absent => exact absurd (absent.symm.trans here) Bool.false_ne_true
  | @unknown item rest first absent =>
      cases stage with
      | created used here => exact absurd (absent.symm.trans here) Bool.false_ne_true
      | starting used absent' queued =>
          rw [queued] at first
          cases first
      | gone closed absent' queued =>
          rw [queued] at first
          cases first

end SessionChannel

end NdcOdfWeb.Sessions
