import Mathlib.Data.List.Nodup
import NdcOdfWeb.Foundation.StepRun
import NdcOdfWeb.Protocol.Tokens

/-! The brokers of all documents: the map that requests look them up in, their threads, and the
child processes that these are given.
-/

namespace NdcOdfWeb.Broker

open NdcOdfWeb.Foundation
open NdcOdfWeb.Protocol

/-- A broker with its thread and its child. -/
structure BrokerThread where
  docKey : Text
  markToDestroy : Bool
  stop : Bool
  threadStarted : Bool
  threadFinished : Bool
  childProcess : Option Nat

/-- All brokers that were created, in this order, and the map from the keys of documents to their
numbers. The children have numbers, too; `children` counts those that were added.
-/
structure DocBrokers where
  brokers : List BrokerThread
  docBrokers : List (Text × Nat)
  newChildren : List Nat
  children : Nat
  aliveChildren : List Nat
  terminating : Bool

/-- What happens to the brokers; their number tells which of them. -/
inductive BrokerEvent where
  | request (docKey : Text)
  | startThread (broker : Nat)
  | addNewChild
  | childDies (child : Nat)
  | getNewChild (broker : Nat)
  | getsNoChild (broker : Nat)
  | markToDestroy (broker : Nat)
  | stop (broker : Nat)
  | finish (broker : Nat)
  | housekeeping
  | terminate

namespace BrokerThread

/-- The constructor. -/
def create (docKey : Text) : BrokerThread where
  docKey := docKey
  markToDestroy := false
  stop := false
  threadStarted := false
  threadFinished := false
  childProcess := none

/-- `SocketPoll::isAlive`. -/
def polls (broker : BrokerThread) : Bool :=
  broker.threadStarted && !broker.threadFinished

/-- `DocumentBroker::isMarkedToDestroy` -/
def isMarkedToDestroy (broker : BrokerThread) : Bool :=
  broker.markToDestroy || broker.stop

/-- `DocumentBroker::isAlive`; `childAlive` says whether its child is. -/
def isAlive (aliveChildren : List Nat) (broker : BrokerThread) : Bool :=
  if broker.stop = false || broker.polls then true
  else
    match broker.childProcess with
    | none => false
    | some child => decide (child ∈ aliveChildren)

end BrokerThread

namespace DocBrokers

def start : DocBrokers where
  brokers := []
  docBrokers := []
  newChildren := []
  children := 0
  aliveChildren := []
  terminating := false

def isAlive (state : DocBrokers) (broker : Nat) : Bool :=
  match state.brokers[broker]? with
  | none => false
  | some broker => broker.isAlive state.aliveChildren

/-- `cleanupDocBrokers`: remove only when not alive. -/
def cleanupDocBrokers (state : DocBrokers) : DocBrokers :=
  { state with docBrokers := state.docBrokers.filter (fun entry => state.isAlive entry.2) }

/-- `findOrCreateDocBroker`, with the number of the broker if the client gets one. -/
def findOrCreateDocBroker (state : DocBrokers) (docKey : Text) : DocBrokers × Option Nat :=
  let state := state.cleanupDocBrokers
  if state.terminating then (state, none)
  else
    match state.docBrokers.lookup docKey with
    | some broker =>
        -- Destroying the document? Let the client reconnect.
        if (state.brokers[broker]?.map BrokerThread.isMarkedToDestroy).getD true then (state, none)
        else (state, some broker)
    | none =>
        (
          {
            state with
            brokers := state.brokers ++ [.create docKey]
            docBrokers := state.docBrokers ++ [(docKey, state.brokers.length)]
          },
          some state.brokers.length
        )

/-- What the thread of a broker does, as long as it polls. -/
def poll (state : DocBrokers) (broker : Nat)
    (update : BrokerThread → Option (BrokerThread × DocBrokers))
    : Option DocBrokers := do
  let this ← state.brokers[broker]?
  if this.polls then
    let (this, changed) ← update this
    some { changed with brokers := state.brokers.set broker this }
  else none

/-- One step. A child is taken from the back of the spare ones, and dropped if it is dead; without
one, the thread stops for good. When the loop of `pollThread` has ended, the child is closed.
-/
def step (state : DocBrokers) : BrokerEvent → Option DocBrokers
  | .request docKey => some (state.findOrCreateDocBroker docKey).1
  | .startThread broker => do
      let this ← state.brokers[broker]?
      if this.threadStarted then some state
      else
        let this := { this with threadStarted := true, threadFinished := false }
        some { state with brokers := state.brokers.set broker this }
  | .addNewChild =>
      some
        {
          state with
          newChildren := state.newChildren ++ [state.children]
          aliveChildren := state.children :: state.aliveChildren
          children := state.children + 1
        }
  | .childDies child =>
      some { state with aliveChildren := state.aliveChildren.filter (· ≠ child) }
  | .getNewChild broker =>
      state.poll broker (fun this =>
        match this.childProcess, state.newChildren.getLast? with
        | none, some child =>
            let state := { state with newChildren := state.newChildren.dropLast }
            if child ∈ state.aliveChildren then
              some ({ this with childProcess := some child }, state)
            else some (this, state)
        | _, _ => none)
  | .getsNoChild broker =>
      state.poll broker (fun this =>
        if this.childProcess = none then
          some ({ this with stop := true, threadFinished := true }, state)
        else none)
  | .markToDestroy broker =>
      state.poll broker (fun this => some ({ this with markToDestroy := true }, state))
  | .stop broker => state.poll broker (fun this => some ({ this with stop := true }, state))
  | .finish broker =>
      state.poll broker (fun this =>
        match this.childProcess with
        | none => none
        | some child =>
            if this.stop || state.terminating then
              some
                ({ this with stop := true, threadFinished := true },
                  { state with aliveChildren := state.aliveChildren.filter (· ≠ child) })
            else none)
  | .housekeeping => some state.cleanupDocBrokers
  | .terminate => some { state with terminating := true }

end DocBrokers

-----------------------------------------------------------------------------------------
-- One step
-----------------------------------------------------------------------------------------

namespace DocBrokers

/-- Every broker that is alive is in the map, under its key, and one that was stopped has been
started.
-/
structure Registered (state : DocBrokers) : Prop where
  keys : (state.docBrokers.map Prod.fst).Nodup
  known
    : ∀ docKey i, (docKey, i) ∈ state.docBrokers
      → ∃ broker, state.brokers[i]? = some broker ∧ broker.docKey = docKey
  alive
    : ∀ (i : Nat) (broker : BrokerThread), state.brokers[i]? = some broker
      → broker.isAlive state.aliveChildren = true
      → (broker.docKey, i) ∈ state.docBrokers
  started
    : ∀ (i : Nat) (broker : BrokerThread), state.brokers[i]? = some broker
      → broker.stop = true
      → broker.threadStarted = true

/-- A child that was added is spare, or it was given to one broker. -/
structure Apart (state : DocBrokers) : Prop where
  added : ∀ child ∈ state.aliveChildren, child < state.children
  spare : state.newChildren.Nodup ∧ ∀ child ∈ state.newChildren, child < state.children
  attached
    : ∀ (i : Nat) (broker : BrokerThread) (child : Nat), state.brokers[i]? = some broker
      → broker.childProcess = some child
      → child < state.children ∧ child ∉ state.newChildren
  apart
    : ∀ (i j : Nat) (broker other : BrokerThread) (child : Nat),
        state.brokers[i]? = some broker
        → state.brokers[j]? = some other
        → broker.childProcess = some child
        → other.childProcess = some child
        → i = j

/-- At first, no broker is registered. -/
theorem registered_start : start.Registered where
  keys := List.nodup_nil
  known _ _ member := absurd member List.not_mem_nil
  alive _ _ found := absurd found nofun
  started _ _ found := absurd found nofun

/-- At first, no child exists. -/
theorem apart_start : start.Apart where
  added := List.forall_mem_nil _
  spare := ⟨List.nodup_nil, List.forall_mem_nil _⟩
  attached _ _ _ found := absurd found nofun
  apart _ _ _ _ _ found := absurd found nofun

/-- A broker whose child is dead is not revived by other children. -/
theorem isAlive_of_subset {broker : BrokerThread} {less more : List Nat}
    (subset : ∀ child, broker.childProcess = some child → child ∈ less → child ∈ more)
    (alive : broker.isAlive less = true)
    : broker.isAlive more = true := by
  unfold BrokerThread.isAlive at alive ⊢
  by_cases running : (broker.stop = false || broker.polls) = true
  · rw [if_pos running]
  · rw [if_neg running] at alive ⊢
    cases found : broker.childProcess with
    | none =>
        rw [found] at alive
        cases alive
    | some child =>
        rw [found] at alive
        exact decide_eq_true (subset child found (of_decide_eq_true alive))

/-- The cleanup keeps the brokers that are alive. -/
theorem Registered.cleanup {state : DocBrokers} (registered : state.Registered)
    : state.cleanupDocBrokers.Registered where
  keys := registered.keys.sublist (List.filter_sublist.map Prod.fst)
  known docKey i member := registered.known docKey i (List.mem_filter.mp member).1
  alive i broker found alive := by
    refine List.mem_filter.mpr ⟨registered.alive i broker found alive, ?_⟩
    have same : state.brokers[i]? = some broker := found
    rw [isAlive, same]
    exact alive
  started := registered.started

/-- An entry is an old one or the last one. -/
theorem getElem?_concat_cases {α : Type} {list : List α} {last found : α} {i : Nat}
    (there : (list ++ [last])[i]? = some found)
    : list[i]? = some found ∨ i = list.length ∧ found = last := by
  rcases Nat.lt_trichotomy i list.length with inside | rfl | outside
  · rw [List.getElem?_append_left inside] at there
    exact .inl there
  · rw [List.getElem?_concat_length, Option.some.injEq] at there
    exact .inr ⟨rfl, there.symm⟩
  · rw [List.getElem?_eq_none (by rw [List.length_append, List.length_singleton]; omega)]
      at there
    cases there

/-- A new broker for a key that has none. -/
theorem Registered.create {state : DocBrokers} (registered : state.Registered) {docKey : Text}
    (absent : state.docBrokers.lookup docKey = none)
    : Registered
        {
          state with
          brokers := state.brokers ++ [.create docKey]
          docBrokers := state.docBrokers ++ [(docKey, state.brokers.length)]
        } where
  keys := by
    have new : docKey ∉ state.docBrokers.map Prod.fst := by
      intro member
      obtain ⟨entry, here, same⟩ := List.mem_map.mp member
      have differs := List.lookup_eq_none_iff.mp absent entry here
      rw [same] at differs
      simp at differs
    rw [List.map_append, List.map_singleton, ← List.concat_eq_append]
    exact List.Nodup.concat new registered.keys
  known key i member := by
    rcases List.mem_append.mp member with old | last
    · obtain ⟨broker, found, same⟩ := registered.known key i old
      have inside := (List.getElem?_eq_some_iff.mp found).1
      exact ⟨broker, (List.getElem?_append_left inside).trans found, same⟩
    · cases List.mem_singleton.mp last
      exact ⟨.create docKey, List.getElem?_concat_length, rfl⟩
  alive i broker found alive := by
    rcases getElem?_concat_cases found with old | ⟨rfl, rfl⟩
    · exact List.mem_append_left _ (registered.alive i broker old alive)
    · exact List.mem_append_right _ (List.mem_singleton.mpr rfl)
  started i broker found stopped := by
    rcases getElem?_concat_cases found with old | ⟨rfl, rfl⟩
    · exact registered.started i broker old stopped
    · cases stopped

/-- A new broker has no child yet. -/
theorem Apart.create {state : DocBrokers} (apart : state.Apart) (docKey : Text)
    : Apart
        {
          state with
          brokers := state.brokers ++ [.create docKey]
          docBrokers := state.docBrokers ++ [(docKey, state.brokers.length)]
        } where
  added := apart.added
  spare := apart.spare
  attached i broker child found has := by
    rcases getElem?_concat_cases found with old | ⟨rfl, rfl⟩
    · exact apart.attached i broker child old has
    · cases has
  apart i j broker other child found found' has has' := by
    rcases getElem?_concat_cases found with old | ⟨rfl, rfl⟩
    · rcases getElem?_concat_cases found' with old' | ⟨rfl, rfl⟩
      · exact apart.apart i j broker other child old old' has has'
      · cases has'
    · cases has

/-- A broker is found, or a new one is registered. -/
theorem request_cases (state : DocBrokers) (docKey : Text)
    : (state.findOrCreateDocBroker docKey).1 = state.cleanupDocBrokers
      ∨ state.cleanupDocBrokers.docBrokers.lookup docKey = none
        ∧ (state.findOrCreateDocBroker docKey).1
          = {
              state.cleanupDocBrokers with
              brokers := state.brokers ++ [.create docKey]
              docBrokers :=
                state.cleanupDocBrokers.docBrokers ++ [(docKey, state.brokers.length)]
            } := by
  unfold findOrCreateDocBroker
  dsimp only
  split
  · exact .inl rfl
  · split
    · split <;> exact .inl rfl
    · next absent => exact .inr ⟨absent, rfl⟩

/-- Every broker goes on as one that was there: under its key, and not revived. -/
structure GoesOn (state next : DocBrokers) : Prop where
  docBrokers : next.docBrokers = state.docBrokers
  kept
    : ∀ (i : Nat) (broker : BrokerThread), state.brokers[i]? = some broker
      → ∃ after, next.brokers[i]? = some after ∧ after.docKey = broker.docKey
  was
    : ∀ (i : Nat) (after : BrokerThread), next.brokers[i]? = some after
      → ∃ broker,
          state.brokers[i]? = some broker
          ∧ after.docKey = broker.docKey
          ∧ (after.isAlive next.aliveChildren = true
            → broker.isAlive state.aliveChildren = true)
          ∧ (after.stop = true → after.threadStarted = true)

/-- The map stays, and its brokers keep their keys. -/
theorem Registered.goesOn {state next : DocBrokers} (registered : state.Registered)
    (goesOn : GoesOn state next)
    : next.Registered where
  keys := goesOn.docBrokers ▸ registered.keys
  known docKey i member := by
    rw [goesOn.docBrokers] at member
    obtain ⟨broker, found, same⟩ := registered.known docKey i member
    obtain ⟨after, there, key⟩ := goesOn.kept i broker found
    exact ⟨after, there, key.trans same⟩
  alive i after found alive := by
    obtain ⟨broker, was, key, lives, -⟩ := goesOn.was i after found
    rw [goesOn.docBrokers, key]
    exact registered.alive i broker was (lives alive)
  started i after found stopped := by
    obtain ⟨broker, -, -, -, started⟩ := goesOn.was i after found
    exact started stopped

/-- The entry that was set, or another one. -/
theorem getElem?_set_cases {α : Type} {list : List α} {i j : Nat} {changed found : α}
    (there : (list.set i changed)[j]? = some found)
    : (j = i ∧ found = changed) ∨ j ≠ i ∧ list[j]? = some found := by
  by_cases same : j = i
  · subst same
    have inside : j < (list.set j changed).length := (List.getElem?_eq_some_iff.mp there).1
    rw [List.length_set] at inside
    rw [List.getElem?_set_self inside, Option.some.injEq] at there
    exact .inl ⟨rfl, there.symm⟩
  · rw [List.getElem?_set_ne (fun equal => same equal.symm)] at there
    exact .inr ⟨same, there⟩

/-- A broker is changed; no child becomes alive. -/
theorem Registered.update {state next : DocBrokers} (registered : state.Registered) {i : Nat}
    {broker after : BrokerThread} (found : state.brokers[i]? = some broker)
    (brokers : next.brokers = state.brokers.set i after)
    (docBrokers : next.docBrokers = state.docBrokers)
    (fewer : ∀ child ∈ next.aliveChildren, child ∈ state.aliveChildren)
    (docKey : after.docKey = broker.docKey)
    (alive : after.isAlive state.aliveChildren = true → broker.isAlive state.aliveChildren = true)
    (started : after.stop = true → after.threadStarted = true)
    : next.Registered := by
  have inside : i < state.brokers.length := (List.getElem?_eq_some_iff.mp found).1
  have fewer' {this : BrokerThread} (alive : this.isAlive next.aliveChildren = true)
      : this.isAlive state.aliveChildren = true :=
    isAlive_of_subset (fun child _ member => fewer child member) alive
  refine registered.goesOn { docBrokers, kept := ?_, was := ?_ }
  · intro j this there
    rw [brokers]
    by_cases same : j = i
    · subst same
      rw [List.getElem?_set_self inside]
      cases found.symm.trans there
      exact ⟨after, rfl, docKey⟩
    · rw [List.getElem?_set_ne (fun equal => same equal.symm)]
      exact ⟨this, there, rfl⟩
  · intro j this there
    rw [brokers] at there
    rcases getElem?_set_cases there with ⟨rfl, rfl⟩ | ⟨-, old⟩
    · exact ⟨broker, found, docKey, fun lives => alive (fewer' lives), started⟩
    · exact ⟨this, old, rfl, fewer', registered.started j this old⟩

/-- No broker gets another child. -/
theorem Apart.update {state next : DocBrokers} (apart : state.Apart) {i : Nat}
    {broker after : BrokerThread} (found : state.brokers[i]? = some broker)
    (brokers : next.brokers = state.brokers.set i after)
    (fewer : ∀ child ∈ next.aliveChildren, child ∈ state.aliveChildren)
    (newChildren : next.newChildren.Sublist state.newChildren)
    (children : next.children = state.children)
    (childProcess : after.childProcess = broker.childProcess)
    : next.Apart := by
  have was {j : Nat} {this : BrokerThread} (there : next.brokers[j]? = some this)
      : ∃ old, state.brokers[j]? = some old ∧ this.childProcess = old.childProcess := by
    rw [brokers] at there
    rcases getElem?_set_cases there with ⟨rfl, rfl⟩ | ⟨-, old⟩
    · exact ⟨broker, found, childProcess⟩
    · exact ⟨this, old, rfl⟩
  constructor
  · rw [children]
    exact fun child member => apart.added child (fewer child member)
  · rw [children]
    obtain ⟨nodup, added⟩ := apart.spare
    exact ⟨nodup.sublist newChildren, fun child member => added child (newChildren.subset member)⟩
  · intro j this child there has
    obtain ⟨old, before, same⟩ := was there
    obtain ⟨bound, outside⟩ := apart.attached j old child before (same ▸ has)
    rw [children]
    exact ⟨bound, fun member => outside (newChildren.subset member)⟩
  · intro j k this other child there there' has has'
    obtain ⟨old, before, same⟩ := was there
    obtain ⟨old', before', same'⟩ := was there'
    exact apart.apart j k old old' child before before' (same ▸ has) (same' ▸ has')

/-- Only a broker whose thread runs takes a step of its own. -/
theorem poll_some {state next : DocBrokers} {i : Nat}
    {update : BrokerThread → Option (BrokerThread × DocBrokers)}
    (done : state.poll i update = some next)
    : ∃ broker after changed,
        state.brokers[i]? = some broker
        ∧ broker.polls = true
        ∧ update broker = some (after, changed)
        ∧ next = { changed with brokers := state.brokers.set i after } := by
  unfold poll at done
  obtain ⟨broker, found, done⟩ := Option.bind_eq_some_iff.mp done
  split at done
  · next polls =>
      obtain ⟨⟨after, changed⟩, updated, done⟩ := Option.bind_eq_some_iff.mp done
      cases done
      exact ⟨broker, after, changed, found, polls, updated, rfl⟩
  · cases done

/-- A broker whose thread runs is alive. -/
theorem isAlive_of_polls {broker : BrokerThread} (polls : broker.polls = true)
    (children : List Nat)
    : broker.isAlive children = true := by
  unfold BrokerThread.isAlive
  rw [polls, Bool.or_true]
  rfl

/-- Only a started thread runs. -/
theorem started_of_polls {broker : BrokerThread} (polls : broker.polls = true)
    : broker.threadStarted = true :=
  (Bool.and_eq_true_iff.mp polls).1

/-- The invariants of the map and of the children. -/
structure Sound (state : DocBrokers) : Prop where
  registered : state.Registered
  apart : state.Apart

/-- A step of a broker's thread that leaves the children where they are. -/
theorem Sound.polled {state changed : DocBrokers} (sound : state.Sound) {i : Nat}
    {broker after : BrokerThread} (found : state.brokers[i]? = some broker)
    (polls : broker.polls = true) (docBrokers : changed.docBrokers = state.docBrokers)
    (fewer : ∀ child ∈ changed.aliveChildren, child ∈ state.aliveChildren)
    (newChildren : changed.newChildren.Sublist state.newChildren)
    (children : changed.children = state.children) (docKey : after.docKey = broker.docKey)
    (started : after.threadStarted = broker.threadStarted)
    (childProcess : after.childProcess = broker.childProcess)
    : Sound { changed with brokers := state.brokers.set i after } where
  registered :=
    sound.registered.update found rfl docBrokers fewer docKey
      (fun _ => isAlive_of_polls polls _) (fun _ => started.trans (started_of_polls polls))
  apart := sound.apart.update found rfl fewer newChildren children childProcess

/-- The last of the spare children is given to a broker. -/
theorem Apart.give {state : DocBrokers} (apart : state.Apart) {i : Nat} {broker : BrokerThread}
    {child : Nat} (last : state.newChildren.getLast? = some child)
    : Apart
        {
          state with
          newChildren := state.newChildren.dropLast
          brokers := state.brokers.set i { broker with childProcess := some child }
        } := by
  obtain ⟨rest, shape⟩ := List.getLast?_eq_some_iff.mp last
  obtain ⟨nodup, added⟩ := apart.spare
  rw [shape] at nodup added
  have front : state.newChildren.dropLast = rest := by
    rw [shape, List.dropLast_concat]
  have absent : child ∉ rest := fun member =>
    (List.nodup_append.mp nodup).2.2 child member child (List.mem_singleton.mpr rfl) rfl
  have here : child ∈ state.newChildren := by
    rw [shape]
    exact List.mem_append_right _ (List.mem_singleton.mpr rfl)
  have less : ∀ other, other ∉ state.newChildren → other ∉ rest := by
    intro other outside member
    rw [shape] at outside
    exact outside (List.mem_append_left _ member)
  constructor
  · exact apart.added
  · dsimp only
    rw [front]
    exact ⟨(List.nodup_append.mp nodup).1,
      fun other member => added other (List.mem_append_left _ member)⟩
  · intro j this other there has
    dsimp only at there ⊢
    rw [front]
    rcases getElem?_set_cases there with ⟨rfl, rfl⟩ | ⟨-, old⟩
    · cases has
      exact ⟨added child (List.mem_append_right _ (List.mem_singleton.mpr rfl)), absent⟩
    · obtain ⟨bound, outside⟩ := apart.attached j this other old has
      exact ⟨bound, less other outside⟩
  · intro j k this other found there there' has has'
    rcases getElem?_set_cases there with ⟨rfl, rfl⟩ | ⟨-, old⟩
    · rcases getElem?_set_cases there' with ⟨rfl, -⟩ | ⟨-, old'⟩
      · rfl
      · cases has
        exact absurd here (apart.attached k other child old' has').2
    · rcases getElem?_set_cases there' with ⟨rfl, rfl⟩ | ⟨-, old'⟩
      · cases has'
        exact absurd here (apart.attached j this child old has).2
      · exact apart.apart j k this other found old old' has has'

/-- A child is added; no broker has it yet. -/
theorem Sound.addNewChild {state : DocBrokers} (sound : state.Sound)
    : Sound
        {
          state with
          newChildren := state.newChildren ++ [state.children]
          aliveChildren := state.children :: state.aliveChildren
          children := state.children + 1
        } := by
  obtain ⟨nodup, added⟩ := sound.apart.spare
  have new : state.children ∉ state.newChildren := fun member =>
    Nat.lt_irrefl _ (added _ member)
  constructor
  · refine sound.registered.goesOn { docBrokers := rfl, kept := ?_, was := ?_ }
    · exact fun i broker found => ⟨broker, found, rfl⟩
    · intro i broker found
      refine ⟨broker, found, rfl, isAlive_of_subset ?_, sound.registered.started i broker found⟩
      intro child has member
      have bound := (sound.apart.attached i broker child found has).1
      rcases List.mem_cons.mp member with rfl | old
      · exact absurd bound (Nat.lt_irrefl _)
      · exact old
  · constructor
    · intro child member
      rcases List.mem_cons.mp member with rfl | old
      · exact Nat.lt_succ_self _
      · exact Nat.lt_succ_of_lt (sound.apart.added child old)
    · refine ⟨?_, ?_⟩
      · dsimp only
        rw [← List.concat_eq_append]
        exact List.Nodup.concat new nodup
      · intro child member
        rcases List.mem_append.mp member with old | last
        · exact Nat.lt_succ_of_lt (added child old)
        · rw [List.mem_singleton.mp last]
          exact Nat.lt_succ_self _
    · intro i broker child found has
      obtain ⟨bound, outside⟩ := sound.apart.attached i broker child found has
      refine ⟨Nat.lt_succ_of_lt bound, fun member => ?_⟩
      rcases List.mem_append.mp member with old | last
      · exact outside old
      · exact Nat.ne_of_lt bound (List.mem_singleton.mp last)
    · exact sound.apart.apart

/-- Each event keeps the map and the children, by cases on it. -/
theorem Sound.step {state next : DocBrokers} (sound : state.Sound) {event : BrokerEvent}
    (done : state.step event = some next)
    : next.Sound := by
  cases event with
  | request docKey =>
      cases done
      have clean : state.cleanupDocBrokers.Sound :=
        ⟨sound.registered.cleanup, { sound.apart with }⟩
      rcases state.request_cases docKey with same | ⟨absent, created⟩
      · rw [same]
        exact clean
      · rw [created]
        exact ⟨clean.registered.create absent, clean.apart.create docKey⟩
  | startThread broker =>
      obtain ⟨this, found, done⟩ := Option.bind_eq_some_iff.mp done
      split at done
      · cases done
        exact sound
      · next fresh =>
          cases done
          have stop : this.stop = false := by
            by_contra stopped
            rw [Bool.not_eq_false] at stopped
            exact fresh (sound.registered.started broker this found stopped)
          have lives : this.isAlive state.aliveChildren = true := by
            unfold BrokerThread.isAlive
            rw [stop]
            rfl
          exact
            ⟨sound.registered.update found rfl rfl (fun _ member => member) rfl (fun _ => lives)
              (fun _ => rfl),
              sound.apart.update found rfl (fun _ member => member) (.refl _) rfl rfl⟩
  | addNewChild =>
      cases done
      exact sound.addNewChild
  | childDies child =>
      cases done
      have fewer {other : Nat} (member : other ∈ state.aliveChildren.filter (· ≠ child))
          : other ∈ state.aliveChildren :=
        (List.mem_filter.mp member).1
      refine ⟨sound.registered.goesOn { docBrokers := rfl, kept := ?_, was := ?_ }, ?_⟩
      · exact fun i broker found => ⟨broker, found, rfl⟩
      · exact fun i broker found =>
          ⟨broker, found, rfl, isAlive_of_subset (fun _ _ member => fewer member),
            sound.registered.started i broker found⟩
      · exact { sound.apart with added := fun other member => sound.apart.added other (fewer member) }
  | getNewChild broker =>
      obtain ⟨this, after, changed, found, polls, updated, rfl⟩ := poll_some done
      split at updated
      · next child none' last =>
          dsimp only at updated
          split at updated
          · cases updated
            exact
              ⟨sound.registered.update found rfl rfl (fun _ member => member) rfl
                (fun _ => isAlive_of_polls polls _) (fun _ => started_of_polls polls),
                sound.apart.give last⟩
          · cases updated
            exact sound.polled found polls rfl (fun _ member => member)
              (List.dropLast_sublist _) rfl rfl rfl rfl
      · cases updated
  | getsNoChild broker =>
      obtain ⟨this, after, changed, found, polls, updated, rfl⟩ := poll_some done
      split at updated
      · cases updated
        exact sound.polled found polls rfl (fun _ member => member) (.refl _) rfl rfl rfl rfl
      · cases updated
  | markToDestroy broker =>
      obtain ⟨this, after, changed, found, polls, updated, rfl⟩ := poll_some done
      cases updated
      exact sound.polled found polls rfl (fun _ member => member) (.refl _) rfl rfl rfl rfl
  | stop broker =>
      obtain ⟨this, after, changed, found, polls, updated, rfl⟩ := poll_some done
      cases updated
      exact sound.polled found polls rfl (fun _ member => member) (.refl _) rfl rfl rfl rfl
  | finish broker =>
      obtain ⟨this, after, changed, found, polls, updated, rfl⟩ := poll_some done
      split at updated
      · cases updated
      · next child has =>
          split at updated
          · cases updated
            exact sound.polled found polls rfl
              (fun _ member => (List.mem_filter.mp member).1) (.refl _) rfl rfl rfl rfl
          · cases updated
  | housekeeping =>
      cases done
      exact ⟨sound.registered.cleanup, { sound.apart with }⟩
  | terminate =>
      cases done
      exact ⟨{ sound.registered with }, { sound.apart with }⟩

-----------------------------------------------------------------------------------------
-- Runs
-----------------------------------------------------------------------------------------

/-- A broker whose child is alive is alive. -/
theorem isAlive_of_child {broker : BrokerThread} {children : List Nat} {child : Nat}
    (has : broker.childProcess = some child) (alive : child ∈ children)
    : broker.isAlive children = true := by
  unfold BrokerThread.isAlive
  split
  · rfl
  · rw [has]
    exact decide_eq_true alive

/-- What a client gets is the broker of its document: alive, neither stopped nor about to be
destroyed. A broker that is found was kept by the cleanup, and a created one is fresh.
-/
theorem Registered.serves {state : DocBrokers} (registered : state.Registered) {docKey : Text}
    {i : Nat} (got : (state.findOrCreateDocBroker docKey).2 = some i)
    : ∃ broker,
        (state.findOrCreateDocBroker docKey).1.brokers[i]? = some broker
        ∧ broker.docKey = docKey
        ∧ broker.markToDestroy = false
        ∧ broker.stop = false
        ∧ broker.isAlive state.aliveChildren = true := by
  unfold findOrCreateDocBroker at got ⊢
  dsimp only at got ⊢
  split at got
  · cases got
  · next running =>
      rw [if_neg running]
      split at got
      · next other found =>
          split at got
          · cases got
          · next unmarked =>
              cases got
              rw [if_neg unmarked]
              have entry : (docKey, i) ∈ state.cleanupDocBrokers.docBrokers := by
                obtain ⟨before, after, shape, -⟩ := List.lookup_eq_some_iff.mp found
                rw [shape]
                exact List.mem_append_right _ List.mem_cons_self
              obtain ⟨listed, alive⟩ := List.mem_filter.mp entry
              obtain ⟨broker, there, same⟩ := registered.known docKey i listed
              have kept : state.cleanupDocBrokers.brokers[i]? = some broker := there
              rw [kept] at unmarked
              rw [isAlive, there] at alive
              obtain ⟨kept, runs⟩ := Bool.or_eq_false_iff.mp (Bool.eq_false_iff.mpr unmarked)
              exact ⟨broker, there, same, kept, runs, alive⟩
      · next absent =>
          cases got
          exact ⟨.create docKey, List.getElem?_concat_length, rfl, rfl, rfl, rfl⟩

/-- In every run, a document has at most one broker that is alive, and at most one child that is; a
child is given to one broker, and a client gets the broker of its document.
-/
theorem one_broker_for_a_document (events : List BrokerEvent)
    : AllStates step
        (fun state =>
          (∀ (i j : Nat) (broker other : BrokerThread),
            state.brokers[i]? = some broker
            → state.brokers[j]? = some other
            → broker.docKey = other.docKey
            → broker.isAlive state.aliveChildren = true
            → other.isAlive state.aliveChildren = true
            → i = j)
          ∧ (∀ (i j : Nat) (broker other : BrokerThread) (child child' : Nat),
            state.brokers[i]? = some broker
            → state.brokers[j]? = some other
            → broker.childProcess = some child ∧ child ∈ state.aliveChildren
            → other.childProcess = some child' ∧ child' ∈ state.aliveChildren
            → (broker.docKey = other.docKey ↔ child = child'))
          ∧ ∀ (docKey : Text) (i : Nat),
            (state.findOrCreateDocBroker docKey).2 = some i
            → ∃ broker,
                (state.findOrCreateDocBroker docKey).1.brokers[i]? = some broker
                ∧ broker.docKey = docKey
                ∧ broker.markToDestroy = false
                ∧ broker.stop = false
                ∧ broker.isAlive state.aliveChildren = true)
        start events := by
  have all : AllStates step Sound start events :=
    allStates_of_keeps (fun state event next sound done => sound.step done)
      ⟨registered_start, apart_start⟩ events
  intro done rest reached split ran
  obtain ⟨registered, apart⟩ := all done rest reached split ran
  have one (i j : Nat) (broker other : BrokerThread) (found : reached.brokers[i]? = some broker)
      (found' : reached.brokers[j]? = some other) (same : broker.docKey = other.docKey)
      (alive : broker.isAlive reached.aliveChildren = true)
      (alive' : other.isAlive reached.aliveChildren = true)
      : i = j := by
    have entry := registered.alive i broker found alive
    have entry' := registered.alive j other found' alive'
    rw [same] at entry
    exact congrArg Prod.snd (List.inj_on_of_nodup_map registered.keys entry entry' rfl)
  refine ⟨one, ?_, fun docKey i => registered.serves⟩
  intro i j broker other child child' found found' ⟨has, alive⟩ ⟨has', alive'⟩
  constructor
  · intro same
    have equal := one i j broker other found found' same (isAlive_of_child has alive)
      (isAlive_of_child has' alive')
    subst equal
    cases found.symm.trans found'
    exact Option.some.inj (has.symm.trans has')
  · rintro rfl
    have equal := apart.apart i j broker other child found found' has has'
    subst equal
    cases found.symm.trans found'
    rfl

end DocBrokers

end NdcOdfWeb.Broker
