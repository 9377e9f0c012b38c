import Mathlib.Data.List.Induction
import Mathlib.Logic.Function.Basic

/-! A line in which a message may take out waiting ones with its own key.
The receiver keeps the last message of every key; what it ends with is what it would have
got from a line that takes nothing out.
-/

namespace NdcOdfWeb.Foundation

variable {M K : Type} [DecidableEq K]

section Values

variable (keyOf : M → Option K)

/-- The receiver's values after one more message; a message without key has no effect. -/
def receive (values : K → Option M) (message : M) : K → Option M :=
  match keyOf message with
  | some key => Function.update values key (some message)
  | none => values

/-- The receiver's values after the messages, in order. -/
def lastValues (messages : List M) : K → Option M :=
  messages.foldl (receive keyOf) (fun _ => none)

/-- Whether a message has a key. -/
def isKeyed (message : M) : Bool :=
  (keyOf message).isSome

/-- Whether a message has a key, and not the one of `new`. -/
def hasOtherKey (new message : M) : Bool :=
  isKeyed keyOf message && keyOf message != keyOf new

omit [DecidableEq K] in
/-- A message without a key adds nothing. -/
theorem filter_isKeyed_append {messages : List M} {message : M}
    (unkeyed : isKeyed keyOf message = false)
    : (messages ++ [message]).filter (isKeyed keyOf) = messages.filter (isKeyed keyOf) := by
  simp [List.filter_append, unkeyed]

/-- Only messages with keys have another one. -/
theorem filter_isKeyed_hasOtherKey (messages : List M) (new : M)
    : (messages.filter (isKeyed keyOf)).filter (hasOtherKey keyOf new)
      = messages.filter (hasOtherKey keyOf new) := by
  rw [List.filter_filter]
  refine List.filter_congr (fun message _ => ?_)
  rw [hasOtherKey, Bool.and_comm, ← Bool.and_assoc, Bool.and_self]

/-- The last message is received last. -/
theorem lastValues_append_singleton (messages : List M) (message : M)
    : lastValues keyOf (messages ++ [message])
      = receive keyOf (lastValues keyOf messages) message := by
  rw [lastValues, List.foldl_append]
  rfl

/-- The last message of a key is its value. -/
theorem lastValues_apply (messages : List M) (key : K)
    : lastValues keyOf messages key
      = (messages.filter (fun message => keyOf message == some key)).getLast? := by
  induction messages using List.reverseRecOn with
  | nil => rfl
  | append_singleton messages message ih =>
      rw [lastValues_append_singleton, receive, List.filter_append]
      cases found : keyOf message with
      | none => simp [found, ih]
      | some other =>
          by_cases same : other = key
          · simp [found, same]
          · simp [found, same, Function.update_of_ne (Ne.symm same), ih]

/-- Only messages with a key matter. -/
theorem lastValues_filter (messages : List M)
    : lastValues keyOf (messages.filter (isKeyed keyOf)) = lastValues keyOf messages := by
  funext key
  rw [lastValues_apply, lastValues_apply, List.filter_filter]
  congr 1
  refine List.filter_congr (fun message _ => ?_)
  cases found : keyOf message <;> simp [isKeyed, found]

/-- A message settles its own key; only the other keys depend on what was there before. -/
theorem receive_congr {values others : K → Option M} {message : M} {key : K}
    (found : keyOf message = some key) (same : ∀ other, other ≠ key → values other = others other)
    : receive keyOf values message = receive keyOf others message := by
  simp only [receive, found]
  funext other
  by_cases own : other = key
  · rw [own, Function.update_self, Function.update_self]
  · rw [Function.update_of_ne own, Function.update_of_ne own, same other own]

end Values

/-- The runs of a line of messages with keys: those sent, those received, and those waiting.
A message that is sent may take out waiting ones with its key, and goes to the end.
-/
inductive LastWriterLine (keyOf : M → Option K) : List M → List M → List M → Prop where
  | new : LastWriterLine keyOf [] [] []
  | send {sent received waiting kept message key}
    (line : LastWriterLine keyOf sent received waiting) (found : keyOf message = some key)
    (sublist : kept.Sublist waiting)
    (others
      : kept.filter (hasOtherKey keyOf message) = waiting.filter (hasOtherKey keyOf message))
    : LastWriterLine keyOf (sent ++ [message]) received (kept ++ [message])
  | receive {sent received waiting message}
    (line : LastWriterLine keyOf sent received (message :: waiting))
    : LastWriterLine keyOf sent (received ++ [message]) waiting

namespace LastWriterLine

variable {keyOf : M → Option K} {sent received waiting : List M}

/-- By induction on the group. -/
theorem receiveAll {group : List M}
    (line : LastWriterLine keyOf sent received (group ++ waiting))
    : LastWriterLine keyOf sent (received ++ group) waiting := by
  induction group generalizing received with
  | nil => simpa using line
  | cons message group ih =>
      have next := ih line.receive
      rwa [List.append_assoc, List.singleton_append] at next

/-- A message that may have a key is put among others with and without keys. -/
theorem sendAny {queue kept : List M} {message : M}
    (line
      : LastWriterLine keyOf (sent.filter (isKeyed keyOf)) received
          (queue.filter (isKeyed keyOf)))
    (sublist : kept.Sublist queue)
    (others
      : kept.filter (hasOtherKey keyOf message) = queue.filter (hasOtherKey keyOf message))
    : LastWriterLine keyOf ((sent ++ [message]).filter (isKeyed keyOf)) received
        ((kept ++ [message]).filter (isKeyed keyOf)) := by
  cases found : keyOf message with
  | none =>
      have all : hasOtherKey keyOf message = isKeyed keyOf := by
        funext it
        cases its : keyOf it <;> simp [hasOtherKey, isKeyed, its, found]
      have unkeyed : isKeyed keyOf message = false := by simp [isKeyed, found]
      rw [all] at others
      rw [filter_isKeyed_append _ unkeyed, filter_isKeyed_append _ unkeyed, others]
      exact line
  | some key =>
      have last (messages : List M)
          : (messages ++ [message]).filter (isKeyed keyOf)
            = messages.filter (isKeyed keyOf) ++ [message] := by
        simp [isKeyed, found]
      rw [last, last]
      refine line.send found (sublist.filter _) ?_
      rw [filter_isKeyed_hasOtherKey, filter_isKeyed_hasOtherKey, others]

/-- The messages that get through keep their order. -/
theorem order (line : LastWriterLine keyOf sent received waiting)
    : (received ++ waiting).Sublist sent := by
  induction line with
  | new => exact .slnil
  | send _ _ sublist _ ih =>
      rw [← List.append_assoc]
      exact (((List.Sublist.refl _).append sublist).trans ih).append (.refl _)
  | receive _ ih => simpa using ih

/-- Taking out messages of one key changes no value of another key. -/
theorem lastValues_kept {kept : List M} {message : M} {key other : K}
    (found : keyOf message = some key)
    (others
      : kept.filter (hasOtherKey keyOf message) = waiting.filter (hasOtherKey keyOf message))
    (differs : other ≠ key)
    : lastValues keyOf (received ++ kept) other
      = lastValues keyOf (received ++ waiting) other := by
  have finer (messages : List M)
      : messages.filter (fun it => keyOf it == some other)
        = (messages.filter (hasOtherKey keyOf message)).filter
            (fun it => keyOf it == some other) := by
    rw [List.filter_filter]
    refine List.filter_congr (fun it _ => ?_)
    cases its : keyOf it with
    | none => simp
    | some own =>
        by_cases same : own = other
        · simp [same, hasOtherKey, isKeyed, its, found, differs]
        · simp [same]
  rw [lastValues_apply, lastValues_apply, List.filter_append, List.filter_append, finer kept,
    others, ← finer waiting]

/-- The receiver ends with the values of all messages sent. -/
theorem values (line : LastWriterLine keyOf sent received waiting)
    : lastValues keyOf (received ++ waiting) = lastValues keyOf sent := by
  induction line with
  | new => rfl
  | @send sent received waiting kept message key _ found _ others ih =>
      rw [← List.append_assoc, lastValues_append_singleton, lastValues_append_singleton]
      refine receive_congr keyOf found (fun other differs => ?_)
      rw [lastValues_kept found others differs, ih]
  | receive _ ih =>
      rw [List.append_assoc]
      exact ih

end LastWriterLine

end NdcOdfWeb.Foundation
