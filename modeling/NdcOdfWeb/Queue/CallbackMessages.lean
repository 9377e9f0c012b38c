import NdcOdfWeb.Protocol.WordTokens
import NdcOdfWeb.Queue.OtherMessages

/-! Messages of the form `callback <view> <type> <payload>`. -/

namespace NdcOdfWeb.Queue

open NdcOdfWeb.Foundation
open NdcOdfWeb.Protocol

/-- A target view: a number, `all` or `except-` and a number. -/
structure View where
  name : Text
  nonempty : name ≠ []
  clean : LineWord ' ' name

/-- All views. -/
def allViews : View where
  name := "all".toList
  nonempty := by decide
  clean := by decide

/-- The message `callback <view> <type> <payload>`. -/
def callbackMessage (view type payload : Text) : Payload :=
  "callback ".toList ++ view ++ ' ' :: type ++ ' ' :: payload

/-- The three words, and the payload behind them. -/
theorem callbackMessage_eq (view type payload : Text)
    : callbackMessage view type payload
      = "callback".toList ++ spaced ' ' [view, type] ++ ' ' :: payload := by
  have name : "callback ".toList = "callback".toList ++ [' '] := by decide
  unfold callbackMessage
  rw [name]
  simp only [spaced_cons, spaced_nil, List.append_assoc, List.cons_append, List.nil_append]

/-- A message has a command. -/
theorem callbackMessage_ne_nil (view type payload : Text)
    : callbackMessage view type payload ≠ [] :=
  List.append_ne_nil_of_right_ne_nil _ (List.cons_ne_nil _ _)

/-- The first word is the command. -/
theorem getFirstToken_callbackMessage (view type payload : Text)
    : getFirstToken ' ' (callbackMessage view type payload) = "callback".toList := by
  have clean : ∀ c ∈ "callback".toList, (c != ' ') = true := by decide
  rw [callbackMessage_eq, spaced_cons, getFirstToken, List.append_assoc,
    List.takeWhile_append_of_pos clean, List.cons_append]
  simp

/-- The words are read back, and the payload's behind them. -/
theorem tokenize_callbackMessage (view : View) {type : Text} (nonempty : type ≠ [])
    (clean : LineWord ' ' type) (payload : Text)
    : tokenize ' ' (callbackMessage view.name type payload)
      = "callback".toList :: view.name :: type :: tokenize ' ' payload := by
  have words : ∀ word ∈ [view.name, type], LineWord ' ' word := by
    simp only [List.forall_mem_cons]
    exact ⟨view.clean, clean, nofun⟩
  have kept : ["callback".toList, view.name, type].filter (· ≠ [])
      = ["callback".toList, view.name, type] := by
    refine List.filter_eq_self.mpr ?_
    simp only [List.forall_mem_cons, ne_eq, decide_eq_true_eq]
    exact ⟨by decide, view.nonempty, nonempty, nofun⟩
  rw [callbackMessage_eq, tokenize_append (by decide) (by decide) words, kept]
  rfl

/-- What stands in front of the payload. -/
def callbackHeader (view type : Text) : Text :=
  "callback".toList ++ spaced ' ' [view, type] ++ [' ']

/-- The header, and the payload. -/
theorem callbackMessage_eq_header (view type payload : Text)
    : callbackMessage view type payload = callbackHeader view type ++ payload := by
  unfold callbackHeader
  rw [callbackMessage_eq, List.append_assoc _ [' '], List.singleton_append]

/-- The words, and three blanks. -/
theorem length_callbackHeader (view type : Text)
    : (callbackHeader view type).length
      = "callback".toList.length + view.length + type.length + 3 := by
  unfold callbackHeader
  simp only [List.length_append, spaced_cons, spaced_nil, List.length_cons, List.length_nil]
  omega

/-- The JSON text of a view callback is its payload. -/
theorem extractViewId_callbackMessage (viewIdOf : Text → Except Exception Text)
    (view type payload : Text)
    : extractViewId viewIdOf (callbackMessage view type payload) "callback".toList view type
      = viewIdOf payload := by
  have inside : ¬ (callbackHeader view type).length
      > (callbackHeader view type ++ payload).length := by
    simp
  unfold extractViewId
  rw [callbackMessage_eq_header, ← length_callbackHeader]
  simp only [inside, if_false, List.drop_left]

/-- A merged text has the header of the message. -/
theorem mergeResult_callbackMessage {view type payload result : Text} {rest : List Text}
    {msg : Invalidation}
    (merged
      : mergeResult (callbackMessage view type payload)
          ("callback".toList :: view :: type :: rest) msg
        = .ok result)
    : ∃ newPayload, result = callbackMessage view type newPayload := by
  obtain ⟨behind, -, done⟩ := bind_ok merged
  simp only [List.getD_cons_zero, List.getD_cons_succ, ← length_callbackHeader] at done
  have starts : callbackHeader view type <+: result := by
    rw [← Except.ok.inj done, callbackMessage_eq_header, List.take_left]
    simp only [List.append_assoc]
    exact List.prefix_append _ _
  obtain ⟨newPayload, same⟩ := starts
  exact ⟨newPayload, by rw [callbackMessage_eq_header, same]⟩

/-- The old callbacks are removed or merged, and the new one appended. -/
theorem putMessage_callback (viewIdOf : Text → Except Exception Text) {queue : List Payload}
    {message : Payload} (first : getFirstToken ' ' message = "callback".toList)
    : TileQueue.putMessage viewIdOf queue message
      = (removeCallbackDuplicate viewIdOf queue message).map
          (fun removed => removed.1 ++ [if removed.2 = [] then message else removed.2]) := by
  have cancel : "callback".toList ≠ "canceltiles".toList := by decide
  have combine : "callback".toList ≠ "tilecombine".toList := by decide
  have tile : "callback".toList ≠ "tile".toList := by decide
  rw [TileQueue.putMessage, first, if_neg cancel, if_neg combine, if_neg tile, if_pos rfl]
  cases removeCallbackDuplicate viewIdOf queue message <;> rfl

/-- The first text is cut off. -/
theorem substr_append (left right : Text)
    : substr (left ++ right) left.length = .ok right := by
  simp [substr]

/-- The merged text keeps what is in front of the numbers and behind them. -/
theorem mergeResult_parts {head numbers rest token0 token1 token2 token3 token4 token5 token6
    : Text} {tokens : List Text} (msg : Invalidation)
    (headLength : head.length = token0.length + token1.length + token2.length + 3)
    (numbersLength
      : numbers.length
        = token3.length + token4.length + token5.length + token6.length + 4)
    : mergeResult (head ++ (numbers ++ rest))
        (token0 :: token1 :: token2 :: token3 :: token4 :: token5 :: token6 :: tokens) msg
      = .ok (head ++ showInt msg.x.toInt ++ ", ".toList ++ showInt msg.y.toInt ++ ", ".toList
          ++ showInt msg.w.toInt ++ ", ".toList ++ showInt msg.h.toInt ++ ", ".toList
          ++ rest) := by
  have before : (head ++ (numbers ++ rest)).take
      (token0.length + token1.length + token2.length + 3) = head := by
    rw [← headLength, List.take_left]
  have behind := substr_append (head ++ numbers) rest
  rw [List.append_assoc, List.length_append, headLength, numbersLength] at behind
  simp only [mergeResult, List.getD_cons_zero, List.getD_cons_succ, before]
  rw [show token0.length + token1.length + token2.length + 3 + token3.length + token4.length
      + token5.length + token6.length + 4
    = token0.length + token1.length + token2.length + 3
      + (token3.length + token4.length + token5.length + token6.length + 4) by omega, behind]
  rfl

end NdcOdfWeb.Queue
