import Mathlib.Data.List.Basic
import NdcOdfWeb.Foundation.StepRun

/-! The spare child processes: forks are requested until there are enough of them, a request for
a document takes one, and each child that was forked is added when it connects.
-/

namespace NdcOdfWeb.Broker

open NdcOdfWeb.Foundation

structure ChildProcess where
  pid : Nat
  isAlive : Bool
deriving DecidableEq

/-- The spare children and the forks. `unanswered` counts the requested forks whose child has
not been added, and `waiting` the requests that wait for a child.
-/
structure ForkState where
  newChildren : List ChildProcess
  outstandingForks : Int
  lastForkRequestTime : Int
  unanswered : Nat
  waiting : Nat
deriving DecidableEq

structure ForkSettings where
  numPreSpawnedChildren : Nat
  childSpawnTimeoutMs : Int

inductive ForkEvent where
  | prespawnChildren (now : Int) (pipe : Bool)
  | requestChild (now : Int) (pipe : Bool)
  | takeChild
  | giveUp
  | addNewChild (child : ChildProcess)
  | childDies (pid : Nat)

namespace ForkState

/-- `forkChildren`, where the request may not get into the pipe. -/
def forkChildren (state : ForkState) (number now : Int) (pipe : Bool) : ForkState × Int :=
  if 0 < number then
    if pipe then
      ({ state with
          outstandingForks := state.outstandingForks + number
          lastForkRequestTime := now
          unanswered := state.unanswered + number.toNat },
        number)
    else (state, -1)
  else (state, 0)

/-- Cleans up dead children. -/
def cleanupChildren (state : ForkState) : ForkState × Bool :=
  let spare := state.newChildren.filter ChildProcess.isAlive
  ({ state with newChildren := spare }, spare.length ≠ state.newChildren.length)

/-- The children are taking too long to spawn. -/
def timedOut (state : ForkState) (settings : ForkSettings) (now : Int) : Prop :=
  state.outstandingForks ≠ 0 ∧ settings.childSpawnTimeoutMs ≤ now - state.lastForkRequestTime

instance (state : ForkState) (settings : ForkSettings) (now : Int)
    : Decidable (state.timedOut settings now) :=
  inferInstanceAs (Decidable (_ ∧ _))

/-- Forget the forks that were requested. -/
def forgetForks (state : ForkState) (settings : ForkSettings) (now : Int) : ForkState :=
  if state.timedOut settings now then { state with outstandingForks := 0 } else state

/-- `rebalanceChildren`, after the cleanup and the reset. -/
def forkMissing (state : ForkState) (rebalance : Bool) (balance now : Int) (pipe : Bool)
    : ForkState × Int :=
  let missing := balance - state.newChildren.length - state.outstandingForks
  if 0 < missing ∧ (rebalance = true ∨ state.outstandingForks = 0) then
    state.forkChildren missing now pipe
  else (state, 0)

def rebalanceChildren (state : ForkState) (settings : ForkSettings) (balance now : Int)
    (pipe : Bool)
    : ForkState × Int :=
  (state.cleanupChildren.1.forgetForks settings now).forkMissing state.cleanupChildren.2
    balance now pipe

/-- `addNewChild`. -/
def addNewChild (state : ForkState) (child : ChildProcess) : ForkState :=
  let lowered := state.outstandingForks - 1
  { state with
    -- prevent from going negative if there are unexpected children
    outstandingForks := if lowered < 0 then lowered + 1 else lowered
    newChildren := state.newChildren ++ [child]
    unanswered := state.unanswered - 1 }

/-- The request for a child: one more is spawned for the one that it takes. -/
def requestChild (state : ForkState) (settings : ForkSettings) (now : Int) (pipe : Bool)
    : ForkState :=
  let (next, forked) :=
    state.rebalanceChildren settings (settings.numPreSpawnedChildren + 1) now pipe
  if forked < 0 then next else { next with waiting := next.waiting + 1 }

/-- A child is taken from the back, whether it is alive or not. -/
def takeChild (state : ForkState) : Option ForkState :=
  if state.newChildren ≠ [] ∧ 0 < state.waiting then
    some { state with
      newChildren := state.newChildren.dropLast
      waiting := state.waiting - 1 }
  else none

end ForkState

/-- One event; a child can be taken only if there is one, and a request that waits for it. -/
def forkStep (settings : ForkSettings) (state : ForkState) : ForkEvent → Option ForkState
  | .prespawnChildren now pipe =>
      some (state.rebalanceChildren settings settings.numPreSpawnedChildren now pipe).1
  | .requestChild now pipe => some (state.requestChild settings now pipe)
  | .takeChild => state.takeChild
  | .giveUp => if 0 < state.waiting then some { state with waiting := state.waiting - 1 } else none
  | .addNewChild child => some (state.addNewChild child)
  | .childDies pid =>
      some { state with
        newChildren := state.newChildren.map
          (fun child => if child.pid = pid then { child with isAlive := false } else child) }

/-- The state after the forkit process was launched: it always spawns one child. -/
def forkitLaunched (now : Int) : ForkState where
  newChildren := []
  outstandingForks := 1
  lastForkRequestTime := now
  unanswered := 1
  waiting := 0

/-- Only requested forks are answered, and none of them is forgotten. -/
def AnswersForks (settings : ForkSettings) (state : ForkState) : ForkEvent → Prop
  | .prespawnChildren now _ | .requestChild now _ => ¬ state.timedOut settings now
  | .addNewChild _ => 0 < state.unanswered
  | .takeChild | .giveUp | .childDies _ => True

-----------------------------------------------------------------------------------------
-- Outstanding forks
-----------------------------------------------------------------------------------------

namespace ForkState

variable {state : ForkState} {settings : ForkSettings}

/-- A fork only adds to the outstanding forks. -/
theorem forkMissing_cases (state : ForkState) (rebalance : Bool) (balance now : Int)
    (pipe : Bool)
    : (state.forkMissing rebalance balance now pipe).1 = state
      ∨ ∃ missing : Nat,
          (missing : Int) = balance - state.newChildren.length - state.outstandingForks
          ∧ (state.forkMissing rebalance balance now pipe).1
            = { state with
                outstandingForks := state.outstandingForks + missing
                lastForkRequestTime := now
                unanswered := state.unanswered + missing } := by
  unfold forkMissing forkChildren
  dsimp only
  split
  · next fork =>
      rw [if_pos fork.1]
      cases pipe with
      | false => exact .inl rfl
      | true =>
          right
          obtain ⟨missing, count⟩ := Int.eq_ofNat_of_zero_le (Int.le_of_lt fork.1)
          refine ⟨missing, count.symm, ?_⟩
          rw [if_pos rfl, count]
          rfl
  · exact .inl rfl

/-- Forks that timed out are forgotten, and new ones are added. -/
theorem outstandingForks_rebalanceChildren (nonneg : 0 ≤ state.outstandingForks)
    (balance now : Int) (pipe : Bool)
    : 0 ≤ (state.rebalanceChildren settings balance now pipe).1.outstandingForks := by
  have kept : 0 ≤ (state.cleanupChildren.1.forgetForks settings now).outstandingForks := by
    rw [forgetForks]
    split
    · exact Int.le_refl 0
    · exact nonneg
  rw [rebalanceChildren]
  rcases forkMissing_cases (state.cleanupChildren.1.forgetForks settings now)
    state.cleanupChildren.2 balance now pipe with same | ⟨missing, _, forked⟩
  · rwa [same]
  · rw [forked]
    exact Int.add_nonneg kept (Int.natCast_nonneg missing)

/-- What a request does to the outstanding forks and to the children is the rebalancing. -/
theorem requestChild_eq (state : ForkState) (settings : ForkSettings) (now : Int) (pipe : Bool)
    : ∃ waiting,
        state.requestChild settings now pipe
        = { (state.rebalanceChildren settings (settings.numPreSpawnedChildren + 1) now pipe).1
            with waiting } := by
  unfold requestChild
  dsimp only
  split
  · exact ⟨_, rfl⟩
  · exact ⟨_, rfl⟩

end ForkState

/-- The outstanding forks do not go below zero. -/
theorem forkStep_nonneg (settings : ForkSettings) (state : ForkState) (event : ForkEvent)
    (next : ForkState) (nonneg : 0 ≤ state.outstandingForks)
    (step : forkStep settings state event = some next)
    : 0 ≤ next.outstandingForks := by
  cases event with
  | prespawnChildren now pipe =>
      cases step
      exact ForkState.outstandingForks_rebalanceChildren nonneg _ now pipe
  | requestChild now pipe =>
      cases step
      obtain ⟨waiting, request⟩ := state.requestChild_eq settings now pipe
      rw [request]
      exact ForkState.outstandingForks_rebalanceChildren nonneg _ now pipe
  | takeChild =>
      rw [forkStep, ForkState.takeChild] at step
      split at step
      · cases step
        exact nonneg
      · cases step
  | giveUp =>
      rw [forkStep] at step
      split at step
      · cases step
        exact nonneg
      · cases step
  | addNewChild child =>
      cases step
      change 0 ≤ if state.outstandingForks - 1 < 0 then _ else _
      split <;> omega
  | childDies pid =>
      cases step
      exact nonneg

-----------------------------------------------------------------------------------------
-- Spare children and outstanding forks
-----------------------------------------------------------------------------------------

/-- The outstanding forks are those that are not answered, and together with the spare children
they are at most one more than are prespawned.
-/
structure Balanced (settings : ForkSettings) (state : ForkState) : Prop where
  counted : state.outstandingForks = state.unanswered
  bounded
    : (state.newChildren.length : Int) + state.outstandingForks
      ≤ settings.numPreSpawnedChildren + 1

variable {settings : ForkSettings} {state : ForkState}

/-- At most as many are forked as are missing. -/
theorem Balanced.rebalanceChildren (balanced : Balanced settings state) {balance now : Int}
    (enough : balance ≤ settings.numPreSpawnedChildren + 1)
    (inTime : ¬ state.timedOut settings now) (pipe : Bool)
    : Balanced settings (state.rebalanceChildren settings balance now pipe).1 := by
  have cleaned : Balanced settings state.cleanupChildren.1 := by
    refine ⟨balanced.counted, ?_⟩
    have fewer : (state.newChildren.filter ChildProcess.isAlive).length ≤ state.newChildren.length :=
      List.length_filter_le _ _
    have bounded := balanced.bounded
    change ((state.newChildren.filter ChildProcess.isAlive).length : Int) + state.outstandingForks
      ≤ settings.numPreSpawnedChildren + 1
    omega
  have kept : state.cleanupChildren.1.forgetForks settings now = state.cleanupChildren.1 :=
    if_neg inTime
  rw [ForkState.rebalanceChildren, kept]
  rcases ForkState.forkMissing_cases state.cleanupChildren.1 state.cleanupChildren.2 balance now
    pipe with same | ⟨missing, count, forked⟩
  · rwa [same]
  · rw [forked]
    constructor
    · change state.cleanupChildren.1.outstandingForks + missing
        = ((state.cleanupChildren.1.unanswered + missing : Nat) : Int)
      rw [cleaned.counted, Int.natCast_add]
    · change (state.cleanupChildren.1.newChildren.length : Int)
          + (state.cleanupChildren.1.outstandingForks + missing)
        ≤ settings.numPreSpawnedChildren + 1
      omega

/-- By cases on the event. -/
theorem Balanced.forkStep (event : ForkEvent) (next : ForkState)
    (balanced : Balanced settings state) (answers : AnswersForks settings state event)
    (step : forkStep settings state event = some next)
    : Balanced settings next := by
  cases event with
  | prespawnChildren now pipe =>
      cases step
      exact balanced.rebalanceChildren (by omega) answers pipe
  | requestChild now pipe =>
      cases step
      obtain ⟨waiting, request⟩ := state.requestChild_eq settings now pipe
      have rebalanced := balanced.rebalanceChildren (Int.le_refl _) answers pipe
      rw [request]
      exact ⟨rebalanced.counted, rebalanced.bounded⟩
  | takeChild =>
      rw [Broker.forkStep, ForkState.takeChild] at step
      split at step
      · cases step
        refine ⟨balanced.counted, ?_⟩
        have bounded := balanced.bounded
        change (state.newChildren.dropLast.length : Int) + state.outstandingForks
          ≤ settings.numPreSpawnedChildren + 1
        rw [List.length_dropLast]
        omega
      · cases step
  | giveUp =>
      rw [Broker.forkStep] at step
      split at step
      · cases step
        exact ⟨balanced.counted, balanced.bounded⟩
      · cases step
  | addNewChild child =>
      cases step
      have unanswered : 0 < state.unanswered := answers
      have counted := balanced.counted
      have bounded := balanced.bounded
      have lowered : (state.addNewChild child).outstandingForks = state.outstandingForks - 1 :=
        if_neg (by omega)
      constructor
      · rw [lowered]
        change state.outstandingForks - 1 = ((state.unanswered - 1 : Nat) : Int)
        omega
      · rw [lowered]
        change ((state.newChildren ++ [child]).length : Int) + (state.outstandingForks - 1)
          ≤ settings.numPreSpawnedChildren + 1
        rw [List.length_append, List.length_singleton]
        omega
  | childDies pid =>
      cases step
      refine ⟨balanced.counted, ?_⟩
      change ((state.newChildren.map _).length : Int) + state.outstandingForks
        ≤ settings.numPreSpawnedChildren + 1
      rw [List.length_map]
      exact balanced.bounded

/-- At first, no child lives, and one fork is outstanding. -/
theorem balanced_forkitLaunched (settings : ForkSettings) (now : Int)
    : Balanced settings (forkitLaunched now) := by
  refine ⟨rfl, ?_⟩
  change ((0 : Nat) : Int) + 1 ≤ settings.numPreSpawnedChildren + 1
  omega

/-- In every state, the outstanding forks are not negative. Where every requested fork is answered
once and none is forgotten, the spare children and the outstanding forks are at most one more
than are prespawned.
-/
theorem prespawn_bounds (settings : ForkSettings) (now : Int) (events : List ForkEvent)
    : AllStates (forkStep settings) (fun state => 0 ≤ state.outstandingForks)
        (forkitLaunched now) events
      ∧ (AllSteps (forkStep settings) (AnswersForks settings) (forkitLaunched now) events
        → AllStates (forkStep settings)
          (fun state =>
            (state.newChildren.length : Int) + state.outstandingForks
            ≤ settings.numPreSpawnedChildren + 1)
          (forkitLaunched now) events) := by
  constructor
  · exact allStates_of_keeps (forkStep_nonneg settings) (Int.zero_le_ofNat 1) events
  · intro answers done rest reached split reaches
    have balanced := allStates_of_meets
      (fun _ event next balanced answers step => Balanced.forkStep event next balanced answers step)
      (balanced_forkitLaunched settings now) answers done rest reached split reaches
    exact balanced.bounded

def fourChildren : ForkSettings := ⟨4, 5000⟩

/-- The first child is added, three more are requested for the reserve and one for a request,
which takes the child.
-/
def requestEvents : List ForkEvent :=
  [.addNewChild ⟨101, true⟩, .requestChild 10 true, .takeChild]

/-- Checked for each of the events. -/
theorem requestEvents_answer
    : AllSteps (forkStep fourChildren) (AnswersForks fourChildren) (forkitLaunched 0)
        requestEvents := by
  refine .cons Nat.zero_lt_one rfl (.cons (fun late => late.1 rfl) rfl (.cons trivial rfl ?_))
  intro done event rest reached split
  exact absurd split (by simp)

/-- Four outstanding forks and a spare child are the five that were requested. -/
theorem prespawn_bounds_request
    : (stepRun (forkStep fourChildren) (forkitLaunched 0) (requestEvents.take 2)).map
        (fun state => (state.newChildren.length, state.outstandingForks)) = some (1, 4)
      ∧ AllStates (forkStep fourChildren)
        (fun state => (state.newChildren.length : Int) + state.outstandingForks ≤ 4 + 1)
        (forkitLaunched 0) requestEvents :=
  ⟨by decide +kernel, (prespawn_bounds fourChildren 0 requestEvents).2 requestEvents_answer⟩

end NdcOdfWeb.Broker
