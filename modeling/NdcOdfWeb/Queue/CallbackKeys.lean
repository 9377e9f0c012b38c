import NdcOdfWeb.Foundation.LastWriter
import NdcOdfWeb.Foundation.Replace
import NdcOdfWeb.Queue.CallbackMessages

/-! The keys of callbacks: what `removeCallbackDuplicate` takes out has the key of the message
that is put.
-/

namespace NdcOdfWeb.Queue

open NdcOdfWeb.Foundation
open NdcOdfWeb.Protocol

/-- What a callback of a de-duplicated type sets: the target view and the type, together with
the .uno: command of a state or the view id of a view callback.
-/
structure CallbackKey where
  view : Text
  type : Text
  detail : Text
deriving DecidableEq

/-- The key of a changed state, from the tokens behind the type; only .uno: commands have
one.
-/
def stateKey (view : Text) : List Text → Option CallbackKey
  | [] => none
  | token3 :: _ =>
      if extractUnoCommand token3 = [] then none
      else some ⟨view, "8".toList, extractUnoCommand token3⟩

/-- The key of a message, if it is a callback of a de-duplicated type. -/
def callbackKey (viewIdOf : Text → Except Exception Text) (message : Payload)
    : Option CallbackKey :=
  if getFirstToken ' ' message ≠ "callback".toList then none
  else
    match tokenize ' ' message with
    | token0 :: view :: type :: rest =>
        if type = "8".toList then stateKey view rest
        else if type ∈ valueTypes then some ⟨view, type, []⟩
        else if type ∈ viewTypes then
          match extractViewId viewIdOf message token0 view type with
          | .ok viewId => some ⟨view, type, viewId⟩
          | .error _ => none
        else none
    | _ => none

variable {viewIdOf : Text → Except Exception Text}

/-- Only callbacks have a key. -/
theorem callbackKey_isKeyed {message : Payload}
    (keyed : isKeyed (callbackKey viewIdOf) message = true)
    : getFirstToken ' ' message = "callback".toList := by
  by_contra other
  rw [isKeyed, callbackKey, if_pos other] at keyed
  cases keyed

/-- The key depends on the first tokens. -/
theorem callbackKey_tokens {message token0 view type : Text} {rest : List Text}
    (first : getFirstToken ' ' message = "callback".toList)
    (tokens : tokenize ' ' message = token0 :: view :: type :: rest)
    : callbackKey viewIdOf message
      = if type = "8".toList then stateKey view rest
        else if type ∈ valueTypes then some ⟨view, type, []⟩
        else if type ∈ viewTypes then
          match extractViewId viewIdOf message token0 view type with
          | .ok viewId => some ⟨view, type, viewId⟩
          | .error _ => none
        else none := by
  rw [callbackKey, if_neg (not_not.mpr first), tokens]

/-- A message that is no callback, or has the key of `message`, is not one with another
key.
-/
theorem hasOtherKey_eq_false {message it : Payload}
    (same
      : getFirstToken ' ' it = "callback".toList
        → callbackKey viewIdOf it = callbackKey viewIdOf message)
    : hasOtherKey (callbackKey viewIdOf) message it = false := by
  by_contra other
  simp only [Bool.not_eq_false, hasOtherKey, Bool.and_eq_true, bne_iff_ne] at other
  exact other.2 (same (callbackKey_isKeyed other.1))

-----------------------------------------------------------------------------------------
-- What the branches take out
-----------------------------------------------------------------------------------------

/-- States and invalidations have types of their own. -/
theorem mem_types {type : Text} (values : type ∈ valueTypes ∨ type ∈ viewTypes)
    : type ≠ "8".toList ∧ type ≠ "0".toList := by
  constructor <;> rintro rfl <;> exact absurd values (by decide)

/-- An invalidation has no key. -/
theorem callbackKey_invalidation {message token0 view : Text} {rest : List Text}
    (tokens : tokenize ' ' message = token0 :: view :: "0".toList :: rest)
    : callbackKey viewIdOf message = none := by
  have state : "0".toList ≠ "8".toList := by decide
  have value : "0".toList ∉ valueTypes := by decide
  have view : "0".toList ∉ viewTypes := by decide
  by_cases first : getFirstToken ' ' message = "callback".toList
  · rw [callbackKey_tokens first tokens, if_neg state, if_neg value, if_neg view]
  · rw [callbackKey, if_pos first]

/-- An invalidation has no key, whatever its tokens are. -/
theorem queuedInvalidation_unkeyed {it token0 token1 : Payload} {queued : Invalidation}
    (found : queuedInvalidation token0 token1 "0".toList it = some queued)
    : isKeyed (callbackKey viewIdOf) it = false := by
  unfold queuedInvalidation at found
  split at found
  · next queued0 queued1 queued2 rest tokens =>
      split at found
      · cases found
      · next same =>
          simp only [ne_eq, not_or, not_not] at same
          obtain ⟨-, -, rfl⟩ := same
          simp [isKeyed, callbackKey_invalidation tokens]
  · cases found

/-- An invalidation has no key. -/
theorem queuedInvalidation_dropped {message it token0 token1 : Payload}
    {queued : Invalidation}
    (found : queuedInvalidation token0 token1 "0".toList it = some queued)
    : hasOtherKey (callbackKey viewIdOf) message it = false := by
  have unkeyed : isKeyed (callbackKey viewIdOf) it = false := queuedInvalidation_unkeyed found
  simp [hasOtherKey, unkeyed]

/-- Two states of one command have one key. -/
theorem sameUnoCommand_dropped {message it token0 view : Text} {token3 : Text}
    {rest : List Text} (first : getFirstToken ' ' message = "callback".toList)
    (tokens : tokenize ' ' message = token0 :: view :: "8".toList :: token3 :: rest)
    (same : sameUnoCommand token0 view "8".toList (extractUnoCommand token3) it = true)
    : hasOtherKey (callbackKey viewIdOf) message it = false := by
  refine hasOtherKey_eq_false (fun itFirst => ?_)
  unfold sameUnoCommand at same
  split at same
  · next queued0 queued1 queued2 queued3 queuedRest itTokens =>
      simp only [Bool.and_eq_true, beq_iff_eq, bne_iff_ne] at same
      obtain ⟨⟨⟨⟨-, rfl⟩, rfl⟩, -⟩, sameCommand⟩ := same
      rw [callbackKey_tokens itFirst itTokens, callbackKey_tokens first tokens, if_pos rfl,
        if_pos rfl, stateKey, stateKey, ← sameCommand]
  · cases same

/-- The value of a key is the same for two callbacks of one target and type, and of one view
id if they are view callbacks.
-/
theorem sameCallback_dropped {message it token0 view type : Text} {rest : List Text}
    {viewId : Option Text} (first : getFirstToken ' ' message = "callback".toList)
    (tokens : tokenize ' ' message = token0 :: view :: type :: rest)
    (types
      : type ∈ valueTypes ∧ viewId = none
        ∨ type ∈ viewTypes
          ∧ ∃ id, viewId = some id ∧ extractViewId viewIdOf message token0 view type = .ok id)
    (same : sameCallback viewIdOf view type viewId it = .ok true)
    : hasOtherKey (callbackKey viewIdOf) message it = false := by
  refine hasOtherKey_eq_false (fun itFirst => ?_)
  have notState : type ≠ "8".toList :=
    (mem_types (types.imp And.left And.left)).1
  unfold sameCallback at same
  split at same
  · cases same
  · split at same
    · next queued0 queued1 queued2 queuedRest itTokens =>
        split at same
        · next target =>
            obtain ⟨rfl, rfl⟩ := target
            rw [callbackKey_tokens itFirst itTokens, callbackKey_tokens first tokens,
              if_neg notState, if_neg notState]
            rcases types with ⟨value, rfl⟩ | ⟨viewType, id, rfl, read⟩
            · rw [if_pos value, if_pos value]
            · have notValue : queued2 ∉ valueTypes := by
                intro value
                have disjoint : ∀ text ∈ viewTypes, text ∉ valueTypes := by decide
                exact disjoint queued2 viewType value
              obtain ⟨queuedId, queuedRead, done⟩ := bind_ok same
              have ids : id = queuedId := by
                simpa [pure, Except.pure] using done
              rw [if_neg notValue, if_neg notValue, if_pos viewType, if_pos viewType,
                queuedRead, read, ids]
        · cases same
    · cases same

/-- By induction on the queue. -/
theorem eraseObsolete_filter {obsolete : Payload → Except Exception Bool}
    {keep : Payload → Bool} {queue left : List Payload}
    (dropped : ∀ it ∈ queue, obsolete it = .ok true → keep it = false)
    (erased : eraseObsolete obsolete queue = .ok left)
    : left.filter keep = queue.filter keep := by
  induction queue generalizing left with
  | nil =>
      cases erased
      rfl
  | cons it rest ih =>
      obtain ⟨isObsolete, found, erased⟩ := bind_ok erased
      cases isObsolete with
      | true =>
          cases erased
          rw [List.filter_cons_of_neg (by simp [dropped it (List.mem_cons_self ..) found])]
      | false =>
          obtain ⟨kept, later, done⟩ := bind_ok erased
          cases done
          rw [List.filter_cons, List.filter_cons,
            ih (fun other member => dropped other (List.mem_cons_of_mem it member)) later]

/-- Messages with another key stay. -/
theorem removeCallbackDuplicate_filter {queue left : List Payload} {message newMsg : Payload}
    (first : getFirstToken ' ' message = "callback".toList)
    (removed : removeCallbackDuplicate viewIdOf queue message = .ok (left, newMsg))
    : left.filter (hasOtherKey (callbackKey viewIdOf) message)
      = queue.filter (hasOtherKey (callbackKey viewIdOf) message) := by
  unfold removeCallbackDuplicate at removed
  split at removed
  · next token0 token1 token2 rest tokens =>
      split at removed
      · next invalidation =>
          rw [invalidation] at removed
          unfold removeInvalidations at removed
          have dropped : ∀ it ∈ queue, ∀ queued,
              queuedInvalidation token0 token1 "0".toList it = some queued
              → hasOtherKey (callbackKey viewIdOf) message it = false :=
            fun it _ queued found => queuedInvalidation_dropped found
          have merged (msg : Invalidation) := mergeInvalidations_filter msg false dropped
          split at removed
          · cases removed
            rfl
          · simp only at removed
            split at removed
            · obtain ⟨result, -, done⟩ := bind_ok removed
              cases done
              exact merged _
            · cases removed
              exact merged _
      · split at removed
        · next state =>
            rw [state] at tokens removed
            cases removed
            unfold removeState
            split
            · rfl
            · split
              · rfl
              · exact filter_eraseP_of_dropped
                  (fun it _ same => sameUnoCommand_dropped first tokens same)
        · split at removed
          · next types =>
              obtain ⟨kept, erased, done⟩ := bind_ok removed
              cases done
              unfold removeValue at erased
              split at erased
              · next viewType =>
                  obtain ⟨viewId, read, erased⟩ := bind_ok erased
                  exact eraseObsolete_filter
                    (fun it _ same =>
                      sameCallback_dropped first tokens (.inr ⟨viewType, viewId, rfl, read⟩) same)
                    erased
              · next notView =>
                  exact eraseObsolete_filter
                    (fun it _ same =>
                      sameCallback_dropped first tokens
                        (.inl ⟨types.resolve_right notView, rfl⟩) same)
                    erased
          · cases removed
            rfl
  · cases removed
    rfl

end NdcOdfWeb.Queue
