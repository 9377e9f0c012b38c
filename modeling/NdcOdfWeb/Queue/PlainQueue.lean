import Mathlib.Data.List.Basic
import NdcOdfWeb.Foundation.RunAgreement

/-! The message queue that is not specialised (`MessageQueueBase`), and a list of messages. -/

namespace NdcOdfWeb.Queue

open NdcOdfWeb.Foundation

/-- What the queue uses of its payload. -/
structure PayloadType (α : Type) where
  empty : α → Bool
  new : α

/-- `std::remove_if` moves the elements that stay to the front. What it leaves behind them is not
specified, but that it is as many as were removed.
-/
structure StdRemoveIf (α : Type) where
  leftover : (α → Bool) → List α → List α
  length_leftover
    : ∀ pred elements, (leftover pred elements).length = (elements.filter pred).length

namespace StdRemoveIf

variable {α : Type} (std : StdRemoveIf α)

/-- The elements in place after the call. -/
def apply (pred : α → Bool) (elements : List α) : List α :=
  elements.filter (!pred ·) ++ std.leftover pred elements

/-- A call that removes elements leaves as many of others. -/
theorem length_apply (pred : α → Bool) (elements : List α)
    : (std.apply pred elements).length = elements.length := by
  rw [apply, List.length_append, std.length_leftover, Nat.add_comm]
  have parts := List.length_eq_length_filter_add (l := elements) pred
  exact parts.symm

/-- A tail without elements is left if nothing is to be removed. -/
theorem apply_eq_filter_iff (pred : α → Bool) (elements : List α)
    : std.apply pred elements = elements.filter (!pred ·)
      ↔ ∀ element ∈ elements, pred element = false := by
  rw [apply, List.append_right_eq_self, ← List.length_eq_zero_iff, std.length_leftover,
    List.length_eq_zero_iff, List.filter_eq_nil_iff]
  exact forall₂_congr (fun element _ => Bool.not_eq_true (pred element) ▸ Iff.rfl)

end StdRemoveIf

/-- The calls of a queue. A timeout of zero waits forever. -/
inductive PlainCall (α : Type) where
  | put (value : α)
  | get (timeoutMs : Nat)
  | removeIf (pred : α → Bool)
  | clear

/-- What the calls return. -/
inductive CallResult (α : Type) where
  | done
  | threw
  | message (payload : α)

/-- The pending messages, and what the calls have returned. -/
structure Messages (α : Type) where
  pending : List α
  results : List (CallResult α)

namespace Messages

variable {α : Type} (messages : Messages α)

def reply (pending : List α) (result : CallResult α) : Messages α :=
  ⟨pending, messages.results ++ [result]⟩

/-- An empty item cannot be queued. -/
def put (payload : PayloadType α) (value : α) : Messages α :=
  if payload.empty value then messages.reply messages.pending .threw
  else messages.reply (messages.pending ++ [value]) .done

/-- The first message; without one, the call times out with an empty payload, or waits. -/
def get (payload : PayloadType α) (timeoutMs : Nat) : Option (Messages α) :=
  match messages.pending with
  | [] => if 0 < timeoutMs then some (messages.reply [] (.message payload.new)) else none
  | result :: rest => some (messages.reply rest (.message result))

end Messages

/-- The queue. -/
def queueStep {α : Type} (payload : PayloadType α) (std : StdRemoveIf α) (messages : Messages α)
    : PlainCall α → Option (Messages α)
  | .put value => some (messages.put payload value)
  | .get timeoutMs => messages.get payload timeoutMs
  | .removeIf pred => some (messages.reply (std.apply pred messages.pending) .done)
  | .clear => some (messages.reply [] .done)

/-- A list of messages, from which exactly those are deleted that satisfy the predicate. -/
def listStep {α : Type} (payload : PayloadType α) (messages : Messages α)
    : PlainCall α → Option (Messages α)
  | .put value => some (messages.put payload value)
  | .get timeoutMs => messages.get payload timeoutMs
  | .removeIf pred => some (messages.reply (messages.pending.filter (!pred ·)) .done)
  | .clear => some (messages.reply [] .done)

/-- No pending message satisfies the predicate of a removal. -/
def RemovesNothing {α : Type} (messages : Messages α) : PlainCall α → Prop
  | .removeIf pred => ∀ message ∈ messages.pending, pred message = false
  | .put _ | .get _ | .clear => True

variable {α : Type} (payload : PayloadType α) (std : StdRemoveIf α)

/-- A call does with the queue what it does with the list, unless it removes messages. -/
theorem queueStep_eq_iff (messages : Messages α) (call : PlainCall α)
    : queueStep payload std messages call = listStep payload messages call
      ↔ RemovesNothing messages call := by
  cases call with
  | put value => exact iff_of_true rfl trivial
  | get timeoutMs => exact iff_of_true rfl trivial
  | clear => exact iff_of_true rfl trivial
  | removeIf pred =>
      rw [RemovesNothing, ← std.apply_eq_filter_iff]
      constructor
      · intro same
        exact congrArg Messages.pending (Option.some.inj same)
      · intro same
        rw [queueStep, listStep, same]

/-- The queue has the messages of the list after every call, and returns the same, if and only if
no call of `remove_if` finds a message to remove.
-/
theorem queue_refines_list_iff (calls : List (PlainCall α))
    : RunsAgree (queueStep payload std) (listStep payload) ⟨[], []⟩ calls
      ↔ AllSteps (queueStep payload std) RemovesNothing ⟨[], []⟩ calls :=
  runsAgree_iff (queueStep_eq_iff payload std) ⟨[], []⟩ calls

/-- Payloads of bytes. -/
def bytesPayload : PayloadType (List UInt8) := ⟨List.isEmpty, []⟩

/-- An implementation that leaves empty vectors where it has moved them from. -/
def movingRemoveIf : StdRemoveIf (List UInt8) where
  leftover pred elements := (elements.filter pred).map (fun _ => [])
  length_leftover _ _ := List.length_map _

/-- Two messages are put, and the first one is removed. -/
def removingCalls : List (PlainCall (List UInt8)) :=
  [.put [1], .put [2], .removeIf (fun message => message = [1])]

/-- An empty message stays in place of the one that was removed. -/
theorem removed_message_leaves_another
    : (stepRun (queueStep bytesPayload movingRemoveIf) ⟨[], []⟩ removingCalls).map
          Messages.pending
        = some [[2], []]
      ∧ (stepRun (listStep bytesPayload) ⟨[], []⟩ removingCalls).map Messages.pending = some [[2]]
      ∧ ¬ RunsAgree (queueStep bytesPayload movingRemoveIf) (listStep bytesPayload) ⟨[], []⟩
        removingCalls := by
  have queue : (stepRun (queueStep bytesPayload movingRemoveIf) ⟨[], []⟩ removingCalls).map
      Messages.pending = some [[2], []] := by
    decide +kernel
  have list : (stepRun (listStep bytesPayload) ⟨[], []⟩ removingCalls).map Messages.pending
      = some [[2]] := by
    decide +kernel
  refine ⟨queue, list, ?_⟩
  intro agree
  rw [agree removingCalls [] (List.append_nil _).symm, list] at queue
  exact absurd queue (by decide)

end NdcOdfWeb.Queue
