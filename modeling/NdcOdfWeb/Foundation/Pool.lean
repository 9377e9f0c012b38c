import Mathlib.Algebra.Order.Group.Multiset
import Mathlib.Tactic.Abel

/-! A pool of items next to a first-in first-out line of messages.
A new item may displace a pending one with the same key; items are served in groups.
In every run the items put in are those served, those displaced and those still pending.
-/

namespace NdcOdfWeb.Foundation

variable {α μ : Type}

/-- What happens to a pool. -/
inductive PoolEvent (α μ : Type) where
  | item (item : α)
  | message (message : μ)
  | servedItems (group : List α)
  | servedMessage (message : μ)

namespace PoolEvent

/-- The items that an event puts into the pool. -/
def items : PoolEvent α μ → List α
  | item a => [a]
  | _ => []

/-- The items that an event takes out of the pool. -/
def served : PoolEvent α μ → List α
  | servedItems group => group
  | _ => []

/-- The message that an event puts into the line. -/
def messages : PoolEvent α μ → List μ
  | message m => [m]
  | _ => []

/-- The message that an event takes out of the line. -/
def servedMessages : PoolEvent α μ → List μ
  | servedMessage m => [m]
  | _ => []

/-- A call that puts in items and messages, then takes out a group and messages. -/
def call (items : List α) (messages : List μ) (group : List α) (gone : List μ)
    : List (PoolEvent α μ) :=
  items.map item ++ messages.map message ++ [servedItems group] ++ gone.map servedMessage

section Call

variable (puts : List α) (sent : List μ) (group : List α) (gone : List μ)

/-- Nothing, for each of the elements. -/
theorem flatMap_nil {β γ : Type} (l : List β) : l.flatMap (fun _ => ([] : List γ)) = [] :=
  List.flatMap_eq_nil_iff.mpr (fun _ _ => rfl)

/-- The items of a call are those it puts. -/
theorem items_call : (call puts sent group gone).flatMap items = puts := by
  simp [call, List.flatMap_map, items, flatMap_nil]

/-- What a call serves is its group. -/
theorem served_call : (call puts sent group gone).flatMap served = group := by
  simp [call, List.flatMap_map, served, flatMap_nil]

/-- The messages of a call are those it puts. -/
theorem messages_call : (call puts sent group gone).flatMap messages = sent := by
  simp [call, List.flatMap_map, messages, flatMap_nil]

/-- The messages served by a call are those that leave. -/
theorem servedMessages_call : (call puts sent group gone).flatMap servedMessages = gone := by
  simp [call, List.flatMap_map, servedMessages, flatMap_nil]

end Call

end PoolEvent

/-- The pending items, the waiting messages, and every displaced item together with the
item that displaced it.
-/
structure Pool (α μ : Type) where
  pending : Multiset α
  waiting : List μ
  displaced : Multiset (α × α)

namespace Pool

def empty : Pool α μ := ⟨0, [], 0⟩

/-- One event of a pool whose items have the same key when `key` relates them. -/
inductive Step (key : α → α → Prop) : Pool α μ → PoolEvent α μ → Pool α μ → Prop
  | item {pool a}
    : Step key pool (.item a) { pool with pending := a ::ₘ pool.pending }
  | displace {pool a victim rest} (pending : pool.pending = victim ::ₘ rest)
    (same : key victim a)
    : Step key pool (.item a)
        { pool with
          pending := a ::ₘ rest
          displaced := (victim, a) ::ₘ pool.displaced }
  | message {pool m}
    : Step key pool (.message m) { pool with waiting := pool.waiting ++ [m] }
  | servedItems {pool rest} {group : List α} (pending : pool.pending = (group : Multiset α) + rest)
    : Step key pool (.servedItems group) { pool with pending := rest }
  | servedMessage {pool m rest} (waiting : pool.waiting = m :: rest)
    : Step key pool (.servedMessage m) { pool with waiting := rest }

/-- A run of events from one pool to another. -/
inductive Run (key : α → α → Prop) : Pool α μ → List (PoolEvent α μ) → Pool α μ → Prop
  | nil {pool} : Run key pool [] pool
  | cons {pool event next events final} (step : Step key pool event next)
    (run : Run key next events final)
    : Run key pool (event :: events) final

variable {key : α → α → Prop}

/-- By induction on the first run. -/
theorem Run.append {start middle final : Pool α μ} {events more : List (PoolEvent α μ)}
    (first : Run key start events middle) (second : Run key middle more final)
    : Run key start (events ++ more) final := by
  induction first with
  | nil => exact second
  | cons step _ ih => exact .cons step (ih second)

/-- A run of one step. -/
theorem Run.single {start final : Pool α μ} {event : PoolEvent α μ}
    (step : Step key start event final)
    : Run key start [event] final :=
  .cons step .nil

/-- All items that are or were in a pool and have not been served. -/
def unserved (pool : Pool α μ) : Multiset α :=
  pool.pending + pool.displaced.map Prod.fst

/-- One step serves an item, drops it or keeps it, by cases on the step. -/
theorem Step.items {pool next : Pool α μ} {event : PoolEvent α μ}
    (step : Step key pool event next)
    : pool.unserved + (event.items : Multiset α) = event.served + next.unserved := by
  cases step with
  | item =>
      simp only [unserved, PoolEvent.items, PoolEvent.served, Multiset.coe_nil,
        Multiset.coe_singleton, ← Multiset.singleton_add]
      abel
  | displace pending same =>
      simp only [unserved, PoolEvent.items, PoolEvent.served, pending, Multiset.map_cons,
        Multiset.coe_nil, Multiset.coe_singleton]
      simp only [← Multiset.singleton_add]
      abel
  | message => simp [unserved, PoolEvent.items, PoolEvent.served]
  | servedItems pending =>
      simp only [unserved, PoolEvent.items, PoolEvent.served, pending, Multiset.coe_nil]
      abel
  | servedMessage waiting => simp [unserved, PoolEvent.items, PoolEvent.served]

/-- Messages are served in their order, by cases on the step. -/
theorem Step.messages {pool next : Pool α μ} {event : PoolEvent α μ}
    (step : Step key pool event next)
    : pool.waiting ++ event.messages = event.servedMessages ++ next.waiting := by
  cases step with
  | servedMessage waiting => simp [PoolEvent.messages, PoolEvent.servedMessages, waiting]
  | _ => simp [PoolEvent.messages, PoolEvent.servedMessages]

/-- The items put in are those served, those displaced and those still pending. -/
theorem Run.items {start final : Pool α μ} {events : List (PoolEvent α μ)}
    (run : Run key start events final)
    : start.unserved + (events.flatMap PoolEvent.items : List α)
      = (events.flatMap PoolEvent.served : List α) + final.unserved := by
  induction run with
  | nil => simp
  | @cons pool event next events final step _ ih =>
      have first := step.items
      simp only [List.flatMap_cons, ← Multiset.coe_add, ← add_assoc]
      rw [first, add_assoc, ih, ← add_assoc]

/-- Messages are served in the order in which they were put in. -/
theorem Run.messages {start final : Pool α μ} {events : List (PoolEvent α μ)}
    (run : Run key start events final)
    : start.waiting ++ events.flatMap PoolEvent.messages
      = events.flatMap PoolEvent.servedMessages ++ final.waiting := by
  induction run with
  | nil => simp
  | @cons pool event next events final step _ ih =>
      rw [List.flatMap_cons, List.flatMap_cons, ← List.append_assoc, step.messages,
        List.append_assoc, ih, List.append_assoc]

/-- A displacing step pairs items of one key. -/
theorem Step.displaced {pool next : Pool α μ} {event : PoolEvent α μ}
    (step : Step key pool event next)
    (keyed : ∀ pair ∈ pool.displaced, key pair.1 pair.2)
    : ∀ pair ∈ next.displaced, key pair.1 pair.2 := by
  cases step with
  | displace pending same =>
      intro pair member
      rcases Multiset.mem_cons.mp member with rfl | earlier
      · exact same
      · exact keyed pair earlier
  | _ => exact keyed

/-- An item is only displaced by one with the same key. -/
theorem Run.displaced {start final : Pool α μ} {events : List (PoolEvent α μ)}
    (run : Run key start events final)
    (keyed : ∀ pair ∈ start.displaced, key pair.1 pair.2)
    : ∀ pair ∈ final.displaced, key pair.1 pair.2 := by
  induction run with
  | nil => exact keyed
  | cons step _ ih => exact ih (step.displaced keyed)

end Pool

end NdcOdfWeb.Foundation
