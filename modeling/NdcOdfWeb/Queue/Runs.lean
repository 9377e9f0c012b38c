import NdcOdfWeb.Queue.TileQueue

/-! Runs of a tile queue: calls of its public functions in any order, from a new queue on. -/

namespace NdcOdfWeb.Queue

open NdcOdfWeb.Foundation
open NdcOdfWeb.Protocol

/-- A call and its outcome, for clients that put messages of a type `M`. -/
inductive Event (M : Type) where
  | put (message : M)
  | rejected (message : M)
  | got (result : Except Exception Payload)
  | cursorUpdated
  | cursorRemoved

/-- The message that a call tries to put. -/
def Event.sent {M : Type} (text : M → Payload) : Event M → List Payload
  | put message => [text message]
  | rejected message => [text message]
  | _ => []

/-- The message that a call returns. -/
def Event.received {M : Type} : Event M → List Payload
  | got (.ok payload) => [payload]
  | _ => []

/-- The runs in which `text` writes the messages put, and every message put meets `guard` in
the state that it finds; `get` is called only when it does not wait.
-/
inductive GuardedRun (viewIdOf : Text → Except Exception Text) {M : Type} (text : M → Payload)
    (guard : List Payload → M → Prop)
    : List (Event M) → TileQueue → Prop
  | initial : GuardedRun viewIdOf text guard [] TileQueue.empty
  | put {events queue message next} (run : GuardedRun viewIdOf text guard events queue)
    (met : guard queue.queue message)
    (done : queue.put viewIdOf (text message) = .ok next)
    : GuardedRun viewIdOf text guard (events ++ [.put message]) next
  | rejected {events queue message exception}
    (run : GuardedRun viewIdOf text guard events queue)
    (failed : queue.put viewIdOf (text message) = .error exception)
    : GuardedRun viewIdOf text guard (events ++ [.rejected message])
        (queue.afterException (text message))
  | get {events queue result next} (run : GuardedRun viewIdOf text guard events queue)
    (done : queue.get = some (result, next))
    : GuardedRun viewIdOf text guard (events ++ [.got result]) next
  | cursorUpdated {events queue} (viewId part x y width height : Int32)
    (run : GuardedRun viewIdOf text guard events queue)
    : GuardedRun viewIdOf text guard (events ++ [.cursorUpdated])
        (queue.updateCursorPosition viewId part x y width height)
  | cursorRemoved {events queue} (viewId : Int32)
    (run : GuardedRun viewIdOf text guard events queue)
    : GuardedRun viewIdOf text guard (events ++ [.cursorRemoved])
        (queue.removeCursorPosition viewId)

/-- All runs of a client. -/
abbrev Run (viewIdOf : Text → Except Exception Text) {M : Type} (text : M → Payload)
    : List (Event M) → TileQueue → Prop :=
  GuardedRun viewIdOf text (fun _ _ => True)

/-- Induction over a run for a property of the queued messages: cursors do not matter. -/
theorem GuardedRun.queue_induction {viewIdOf : Text → Except Exception Text} {M : Type}
    {text : M → Payload} {guard : List Payload → M → Prop} {P : List Payload → Prop}
    (initial : P [])
    (put
      : ∀ queue message next,
          P queue
          → guard queue message
          → TileQueue.putMessage viewIdOf queue (text message) = .ok next
          → P next)
    (rejected : ∀ queue message, P queue → P (TileQueue.leftMessages queue (text message)))
    (get
      : ∀ (queue : TileQueue) front rest,
          P queue.queue
          → queue.queue = front :: rest
          → P (queue.getMessage front rest).2)
    {events : List (Event M)} {queue : TileQueue}
    (run : GuardedRun viewIdOf text guard events queue)
    : P queue.queue := by
  induction run with
  | initial => exact initial
  | @put events queue message next _ met done ih =>
      unfold TileQueue.put at done
      split at done
      · cases done
      · cases messages : TileQueue.putMessage viewIdOf queue.queue (text message) with
        | error exception => simp [messages, bind, Except.bind] at done
        | ok left =>
            simp only [messages, bind, Except.bind, pure, Except.pure, Except.ok.injEq] at done
            rw [← done]
            exact put _ _ _ ih met messages
  | rejected _ _ ih => exact rejected _ _ ih
  | @get events queue result next _ done ih =>
      unfold TileQueue.get at done
      split at done
      · cases done
      · next front rest shape =>
          simp only [Option.some.injEq, Prod.mk.injEq] at done
          rw [← done.2]
          exact get queue front rest ih shape
  | cursorUpdated viewId part x y width height _ ih => exact ih
  | cursorRemoved viewId _ ih => exact ih

/-- A run whose puts meet a guard is one whose puts meet what the guard implies. By induction
on the run.
-/
theorem GuardedRun.mono {viewIdOf : Text → Except Exception Text} {M : Type}
    {text : M → Payload} {guard weaker : List Payload → M → Prop}
    (implies : ∀ queue message, guard queue message → weaker queue message)
    {events : List (Event M)} {queue : TileQueue}
    (run : GuardedRun viewIdOf text guard events queue)
    : GuardedRun viewIdOf text weaker events queue := by
  induction run with
  | initial => exact .initial
  | put _ met done ih => exact ih.put (implies _ _ met) done
  | rejected _ failed ih => exact ih.rejected failed
  | get _ done ih => exact ih.get done
  | cursorUpdated viewId part x y width height _ ih =>
      exact ih.cursorUpdated viewId part x y width height
  | cursorRemoved viewId _ ih => exact ih.cursorRemoved viewId

end NdcOdfWeb.Queue
