import NdcOdfWeb.Foundation.Places
import NdcOdfWeb.Foundation.StepRun

/-! The polls with their threads, the sockets that they own and hand over, and the callbacks that
other threads ask them to invoke.
-/

namespace NdcOdfWeb.Net

open NdcOdfWeb.Foundation

/-- `std::thread::id`: a socket in transit is not bound to any thread. -/
inductive ThreadId (P : Type) where
  | none
  | poll (p : P)
  | other

/-- Where the thread of a poll is: outside `poll`, in the system call, behind it (with the answer
for the wakeup pipe), with callbacks that are still to be invoked, or in the loop over the
sockets, of which some are left.
-/
inductive PollStage (C : Type) where
  | outside
  | polling
  | returned (woken : Bool)
  | invoking (callbacks : List C)
  | handling (left : Nat)

/-- The callbacks that the thread has extracted, but not invoked yet. -/
def PollStage.callbacks {C : Type} : PollStage C → List C
  | .invoking callbacks => callbacks
  | _ => []

/-- `SocketPoll`, with the number of bytes in its wakeup pipe. The sockets stand for their own
descriptors in `pollFds`, next to their `revents`. What has happened up to now is recorded: the
callbacks that were added and that were invoked, how many had been added when the system call
returned last, and the sockets that were handled, each with the entry that its events are from.
-/
structure SocketPoll (S C : Type) where
  wakeup : Nat
  pollSockets : List S
  newSockets : List S
  newCallbacks : List C
  pollFds : List (S × Int)
  stage : PollStage C
  added : List C
  invoked : List C
  returnedAt : Nat
  handled : List (S × (S × Int))

/-- What becomes of a socket once its events were handled. -/
inductive SocketDisposition where
  | continue
  | closed
  | move

/-- All polls, the sockets that were ever created, and those that were created or moved and are
about to be inserted into a poll.
-/
structure SocketPolls (P S C : Type) where
  polls : P → SocketPoll S C
  created : List S
  hands : List S
  owner : S → ThreadId P

/-- The steps of the threads: anyone may create a socket, wake up a poll, add a callback to it or
insert a socket that is at hand; all other steps are those of the thread of the poll. The system
call answers with the events of the sockets, or fails.
-/
inductive PollEvent (P S C : Type) where
  | create (s : S) (thread : ThreadId P)
  | wakeup (p : P)
  | addCallback (p : P) (callback : C)
  | insertNewSocket (p : P) (s : S)
  | setupPollFds (p : P)
  | polled (p : P) (revents : Option (S → Int))
  | takeNew (p : P)
  | invoke (p : P)
  | removeSockets (p : P)
  | proceed (p : P)
  | handlePoll (p : P) (disposition : SocketDisposition)
  | finish (p : P)

namespace SocketPoll

variable {S C : Type}

def start : SocketPoll S C where
  wakeup := 0
  pollSockets := []
  newSockets := []
  newCallbacks := []
  pollFds := []
  stage := .outside
  added := []
  invoked := []
  returnedAt := 0
  handled := []

/-- `sizeof(int)`: the thread reads that much from the wakeup pipe at once. -/
def dumpSize : Nat := 4

/-- `wakeup` writes a byte, unless the pipe is full. -/
def wakeUp (capacity : { n : Nat // 0 < n }) (poll : SocketPoll S C) : SocketPoll S C :=
  { poll with wakeup := if poll.wakeup < capacity.1 then poll.wakeup + 1 else poll.wakeup }

/-- All sockets that the poll has. -/
def sockets (poll : SocketPoll S C) : List S :=
  poll.pollSockets ++ poll.newSockets

def addCallback (capacity : { n : Nat // 0 < n }) (callback : C) (poll : SocketPoll S C)
    : SocketPoll S C :=
  {
    poll.wakeUp capacity with
    newCallbacks := poll.newCallbacks ++ [callback]
    added := poll.added ++ [callback]
  }

def insertNewSocket (capacity : { n : Nat // 0 < n }) (s : S) (poll : SocketPoll S C)
    : SocketPoll S C :=
  { poll.wakeUp capacity with newSockets := poll.newSockets ++ [s] }

def setupPollFds (poll : SocketPoll S C) : SocketPoll S C :=
  { poll with pollFds := poll.pollSockets.map (·, 0), stage := .polling }

/-- The system call returns; if it fails, it leaves all `revents` at 0. -/
def polled (revents : Option (S → Int)) (poll : SocketPoll S C) : SocketPoll S C :=
  match revents with
  | none => { poll with stage := .returned false }
  | some revents =>
      {
        poll with
        pollFds := poll.pollFds.map (fun pollFd => (pollFd.1, revents pollFd.1))
        stage := .returned (0 < poll.wakeup)
        returnedAt := poll.added.length
      }

/-- Under the lock: clear the data, copy the new sockets over, and extract the callbacks. -/
def takeNew (poll : SocketPoll S C) : SocketPoll S C :=
  {
    poll with
    wakeup := poll.wakeup - dumpSize
    pollSockets := poll.pollSockets ++ poll.newSockets
    newSockets := []
    newCallbacks := []
    stage := .invoking poll.newCallbacks
  }

/-- The size check in front of the loop over the sockets. -/
def checkSize (poll : SocketPoll S C) : SocketPoll S C :=
  if poll.pollSockets.length ≠ poll.pollFds.length then { poll with stage := .outside }
  else { poll with stage := .handling poll.pollFds.length }

def removeSockets (poll : SocketPoll S C) : SocketPoll S C :=
  { poll with pollSockets := [] }

/-- At its end, the thread releases the sockets. -/
def finish (poll : SocketPoll S C) : SocketPoll S C :=
  { poll with pollSockets := [], newSockets := [] }

def handle (i : Nat) (s : S) (pollFd : S × Int) (poll : SocketPoll S C) : SocketPoll S C :=
  { poll with stage := .handling i, handled := poll.handled ++ [(s, pollFd)] }

def erase (i : Nat) (poll : SocketPoll S C) : SocketPoll S C :=
  { poll with pollSockets := poll.pollSockets.eraseIdx i }

end SocketPoll

namespace SocketPolls

variable {P S C : Type}

def start : SocketPolls P S C where
  polls _ := .start
  created := []
  hands := []
  owner _ := .none

variable [DecidableEq P]

def modify (system : SocketPolls P S C) (p : P) (update : SocketPoll S C → SocketPoll S C)
    : SocketPolls P S C :=
  { system with polls := Function.update system.polls p (update (system.polls p)) }

variable [DecidableEq S]

/-- `setThreadOwner` for some sockets. -/
def setThreadOwner (system : SocketPolls P S C) (sockets : List S) (thread : ThreadId P)
    : SocketPolls P S C :=
  { system with owner := fun s => if s ∈ sockets then thread else system.owner s }

/-- One step. A pipe holds at most `capacity` bytes. -/
def step (capacity : { n : Nat // 0 < n }) (system : SocketPolls P S C)
    : PollEvent P S C → Option (SocketPolls P S C)
  | .create s thread =>
      if s ∈ system.created then none
      else
        let system := system.setThreadOwner [s] thread
        some { system with created := s :: system.created, hands := s :: system.hands }
  | .wakeup p => some (system.modify p (·.wakeUp capacity))
  | .addCallback p callback => some (system.modify p (·.addCallback capacity callback))
  | .insertNewSocket p s =>
      if s ∈ system.hands then
        -- Sockets in transit are un-owned.
        let system := system.setThreadOwner [s] .none
        let system := { system with hands := system.hands.erase s }
        some (system.modify p (·.insertNewSocket capacity s))
      else none
  | .setupPollFds p =>
      match (system.polls p).stage with
      | .outside => some (system.modify p (·.setupPollFds))
      | _ => none
  | .polled p revents =>
      match (system.polls p).stage with
      | .polling => some (system.modify p (·.polled revents))
      | _ => none
  | .takeNew p =>
      match (system.polls p).stage with
      | .returned true =>
          let system := system.setThreadOwner (system.polls p).newSockets (.poll p)
          some (system.modify p (·.takeNew))
      | _ => none
  | .invoke p =>
      match (system.polls p).stage with
      | .invoking (callback :: callbacks) =>
          some (system.modify p (fun poll =>
            { poll with stage := .invoking callbacks, invoked := poll.invoked ++ [callback] }))
      | _ => none
  | .removeSockets p =>
      match (system.polls p).stage with
      | .outside | .invoking _ =>
          let system := system.setThreadOwner (system.polls p).pollSockets .none
          some (system.modify p (·.removeSockets))
      | _ => none
  | .proceed p =>
      match (system.polls p).stage with
      | .returned false | .invoking [] => some (system.modify p (·.checkSize))
      | .handling 0 => some (system.modify p (fun poll => { poll with stage := .outside }))
      | _ => none
  | .handlePoll p disposition =>
      match (system.polls p).stage with
      | .handling (i + 1) => do
          let s ← (system.polls p).pollSockets[i]?
          let pollFd ← (system.polls p).pollFds[i]?
          let system := system.modify p (·.handle i s pollFd)
          match disposition with
          | .continue => some system
          | .closed => some (system.modify p (·.erase i))
          | .move =>
              let system := (system.modify p (·.erase i)).setThreadOwner [s] .none
              some { system with hands := s :: system.hands }
      | _ => none
  | .finish p =>
      match (system.polls p).stage with
      | .outside =>
          some (system.modify p (·.finish))
      | _ => none

-----------------------------------------------------------------------------------------
-- What a step does to a poll
-----------------------------------------------------------------------------------------

end SocketPolls

namespace SocketPoll

variable {S C : Type}

/-- All that can happen to a poll in a step. -/
inductive Change (capacity : { n : Nat // 0 < n }) (poll : SocketPoll S C)
    : SocketPoll S C → Prop where
  | wakeUp : Change capacity poll (poll.wakeUp capacity)
  | addCallback (callback : C) : Change capacity poll (poll.addCallback capacity callback)
  | insertNewSocket (s : S) : Change capacity poll (poll.insertNewSocket capacity s)
  | setupPollFds (stage : poll.stage = .outside) : Change capacity poll poll.setupPollFds
  | polled (stage : poll.stage = .polling) (revents : Option (S → Int))
    : Change capacity poll (poll.polled revents)
  | takeNew (stage : poll.stage = .returned true) : Change capacity poll poll.takeNew
  | invoke {callback : C} {callbacks : List C}
    (stage : poll.stage = .invoking (callback :: callbacks))
    : Change capacity poll
        { poll with stage := .invoking callbacks, invoked := poll.invoked ++ [callback] }
  | removeSockets (stage : poll.stage = .outside ∨ ∃ callbacks, poll.stage = .invoking callbacks)
    : Change capacity poll poll.removeSockets
  | checkSize (stage : poll.stage = .returned false ∨ poll.stage = .invoking [])
    : Change capacity poll poll.checkSize
  | leave (stage : poll.stage = .handling 0) : Change capacity poll { poll with stage := .outside }
  | handle {i : Nat} {s : S} {pollFd : S × Int} (stage : poll.stage = .handling (i + 1))
    (socket : poll.pollSockets[i]? = some s) (events : poll.pollFds[i]? = some pollFd)
    : Change capacity poll (poll.handle i s pollFd)
  | erase {i : Nat} {s : S} {pollFd : S × Int} (stage : poll.stage = .handling (i + 1))
    (socket : poll.pollSockets[i]? = some s) (events : poll.pollFds[i]? = some pollFd)
    : Change capacity poll ((poll.handle i s pollFd).erase i)
  | finish (stage : poll.stage = .outside)
    : Change capacity poll poll.finish

end SocketPoll

namespace SocketPolls

variable {P S C : Type} [DecidableEq P]

/-- The poll that is changed. -/
theorem polls_modify (system : SocketPolls P S C) (p : P)
    (update : SocketPoll S C → SocketPoll S C)
    : (system.modify p update).polls p = update (system.polls p) :=
  Function.update_self ..

/-- The other polls stay. -/
theorem polls_modify_of_ne (system : SocketPolls P S C) {p q : P} (other : q ≠ p)
    (update : SocketPoll S C → SocketPoll S C)
    : (system.modify p update).polls q = system.polls q :=
  Function.update_of_ne other ..

/-- Two changes of one poll. -/
theorem modify_modify (system : SocketPolls P S C) (p : P)
    (update further : SocketPoll S C → SocketPoll S C)
    : (system.modify p update).modify p further
      = system.modify p (fun poll => further (update poll)) := by
  dsimp only [modify]
  rw [Function.update_self, Function.update_idem]

variable [DecidableEq S]

/-- A step changes one poll at most. -/
theorem step_polls {capacity : { n : Nat // 0 < n }} {system next : SocketPolls P S C}
    {event : PollEvent P S C} (done : system.step capacity event = some next) (q : P)
    : next.polls q = system.polls q
      ∨ (system.polls q).Change capacity (next.polls q) := by
  have modified {p : P} {update : SocketPoll S C → SocketPoll S C} {after : SocketPolls P S C}
      (same : after.polls = (system.modify p update).polls)
      (change : (system.polls p).Change capacity (update (system.polls p)))
      : after.polls q = system.polls q ∨ (system.polls q).Change capacity (after.polls q) := by
    rw [same]
    by_cases same : q = p
    · subst same
      rw [polls_modify]
      exact .inr change
    · rw [polls_modify_of_ne system same]
      exact .inl rfl
  cases event with
  | create s thread =>
      rw [step] at done
      split at done <;> cases done
      exact .inl rfl
  | wakeup p =>
      cases done
      exact modified rfl .wakeUp
  | addCallback p callback =>
      cases done
      exact modified rfl (.addCallback callback)
  | insertNewSocket p s =>
      rw [step] at done
      split at done <;> cases done
      exact modified (p := p) rfl (.insertNewSocket s)
  | setupPollFds p =>
      rw [step] at done
      split at done <;> cases done
      exact modified rfl (.setupPollFds ‹_›)
  | polled p revents =>
      rw [step] at done
      split at done <;> cases done
      exact modified rfl (.polled ‹_› revents)
  | takeNew p =>
      rw [step] at done
      split at done <;> cases done
      exact modified rfl (.takeNew ‹_›)
  | invoke p =>
      rw [step] at done
      split at done <;> cases done
      exact modified rfl (.invoke ‹_›)
  | removeSockets p =>
      rw [step] at done
      split at done <;> cases done
      · exact modified rfl (.removeSockets (.inl ‹_›))
      · exact modified rfl (.removeSockets (.inr ⟨_, ‹_›⟩))
  | proceed p =>
      rw [step] at done
      split at done <;> cases done
      · exact modified rfl (.checkSize (.inl ‹_›))
      · exact modified rfl (.checkSize (.inr ‹_›))
      · exact modified rfl (.leave ‹_›)
  | handlePoll p disposition =>
      rw [step] at done
      split at done
      case h_1 i stage =>
        obtain ⟨s, socket, done⟩ := Option.bind_eq_some_iff.mp done
        obtain ⟨pollFd, events, done⟩ := Option.bind_eq_some_iff.mp done
        have erased := modified (congrArg polls (modify_modify system p (·.handle i s pollFd)
          (·.erase i))) (.erase stage socket events)
        cases disposition with
        | «continue» =>
            cases done
            exact modified rfl (.handle stage socket events)
        | closed =>
            cases done
            exact erased
        | move =>
            cases done
            exact erased
      case h_2 => cases done
  | finish p =>
      rw [step] at done
      split at done <;> cases done
      exact modified rfl (.finish ‹_›)

end SocketPolls

-----------------------------------------------------------------------------------------
-- The callbacks of a poll
-----------------------------------------------------------------------------------------

namespace SocketPoll

variable {S C : Type}

/-- How many callbacks have been invoked once the loop over the sockets starts. -/
def soonInvoked (poll : SocketPoll S C) : Nat :=
  match poll.stage with
  | .returned true => poll.added.length
  | stage => poll.invoked.length + stage.callbacks.length

/-- No callback is lost, none overtakes another one, and the thread does not sleep over them. -/
structure Prompt (poll : SocketPoll S C) : Prop where
  inOrder : poll.added = poll.invoked ++ poll.stage.callbacks ++ poll.newCallbacks
  woken : poll.newCallbacks ≠ [] ∨ poll.newSockets ≠ [] → 0 < poll.wakeup
  soon : poll.returnedAt ≤ poll.soonInvoked

/-- Behind a wakeup, there is a byte in the pipe, full or not. -/
theorem wakeUp_pos (capacity : { n : Nat // 0 < n }) (poll : SocketPoll S C)
    : 0 < (poll.wakeUp capacity).wakeup := by
  have positive := capacity.2
  unfold wakeUp
  dsimp only
  split <;> omega

/-- All callbacks were added at some time. -/
theorem Prompt.soonInvoked_le {poll : SocketPoll S C} (prompt : poll.Prompt)
    : poll.soonInvoked ≤ poll.added.length := by
  have whole := congrArg List.length prompt.inOrder
  rw [List.length_append, List.length_append] at whole
  unfold soonInvoked
  split <;> omega

/-- A stage without callbacks is as good as another one, as long as they are not about to be
taken.
-/
theorem Prompt.setStage {poll : SocketPoll S C} (prompt : poll.Prompt) {stage : PollStage C}
    (before : poll.stage.callbacks = []) (waits : poll.stage ≠ .returned true)
    (after : stage.callbacks = [])
    : ({ poll with stage } : SocketPoll S C).Prompt := by
  have soon : poll.returnedAt ≤ poll.invoked.length := by
    have soon := prompt.soon
    unfold soonInvoked at soon
    split at soon
    · exact absurd ‹_› waits
    · rwa [before] at soon
  constructor
  · change poll.added = poll.invoked ++ stage.callbacks ++ poll.newCallbacks
    rw [after, ← before]
    exact prompt.inOrder
  · exact prompt.woken
  · have le := prompt.soonInvoked_le
    have soon' := prompt.soon
    unfold soonInvoked
    dsimp only
    split <;> omega

/-- The system call returns: without a byte in the pipe, nothing was waiting. -/
theorem Prompt.polled {poll : SocketPoll S C} (prompt : poll.Prompt)
    (stage : poll.stage = .polling) (revents : Option (S → Int))
    : (poll.polled revents).Prompt := by
  cases revents with
  | none => exact prompt.setStage (by rw [stage]; rfl) (by simp [stage]) rfl
  | some revents =>
      have inOrder := prompt.inOrder
      rw [stage] at inOrder
      refine ⟨inOrder, prompt.woken, ?_⟩
      by_cases bytes : 0 < poll.wakeup
      · simp [SocketPoll.polled, soonInvoked, bytes]
      · -- Without a byte in the pipe, nothing is waiting.
        have nothing : poll.newCallbacks = [] :=
          by_contra (fun some' => bytes (prompt.woken (.inl some')))
        have all : poll.added.length = poll.invoked.length := by
          rw [inOrder, nothing, List.append_nil]
          exact congrArg List.length (List.append_nil _)
        simp [SocketPoll.polled, soonInvoked, bytes, all]

/-- The thread takes all callbacks that are waiting. -/
theorem Prompt.takeNew {poll : SocketPoll S C} (prompt : poll.Prompt)
    (stage : poll.stage = .returned true)
    : poll.takeNew.Prompt := by
  have inOrder := prompt.inOrder
  rw [stage] at inOrder
  have inOrder : poll.added = poll.invoked ++ poll.newCallbacks := by
    rw [inOrder]
    exact congrArg (· ++ poll.newCallbacks) (List.append_nil _)
  refine ⟨inOrder.trans (List.append_nil _).symm, ?_, ?_⟩
  · exact fun waiting => (waiting.elim (· rfl) (· rfl)).elim
  · have soon := Nat.le_trans prompt.soon prompt.soonInvoked_le
    rw [inOrder, List.length_append] at soon
    exact soon

/-- The first callback is invoked. -/
theorem Prompt.invoke {poll : SocketPoll S C} (prompt : poll.Prompt) {callback : C}
    {callbacks : List C} (stage : poll.stage = .invoking (callback :: callbacks))
    : ({
        poll with
        stage := .invoking callbacks
        invoked := poll.invoked ++ [callback]
      } : SocketPoll S C).Prompt := by
  have inOrder := prompt.inOrder
  have soon := prompt.soon
  rw [soonInvoked, stage] at soon
  rw [stage] at inOrder
  refine ⟨?_, prompt.woken, ?_⟩
  · simpa [PollStage.callbacks] using inOrder
  · simp only [PollStage.callbacks, List.length_cons] at soon
    simp only [soonInvoked, PollStage.callbacks, List.length_append, List.length_singleton]
    omega

/-- The loop over the sockets leaves the callbacks alone. -/
theorem Prompt.handling {poll : SocketPoll S C} (prompt : poll.Prompt) {i : Nat}
    (stage : poll.stage = .handling (i + 1))
    : ({ poll with stage := .handling i } : SocketPoll S C).Prompt :=
  prompt.setStage (by rw [stage]; rfl) (by simp [stage]) rfl

/-- Whatever happens to a poll, its callbacks stay in order. -/
theorem Prompt.change {capacity : { n : Nat // 0 < n }} {poll next : SocketPoll S C}
    (prompt : poll.Prompt) (change : poll.Change capacity next)
    : next.Prompt := by
  cases change with
  | wakeUp => exact ⟨prompt.inOrder, fun _ => poll.wakeUp_pos capacity, prompt.soon⟩
  | addCallback callback =>
      refine ⟨?_, fun _ => poll.wakeUp_pos capacity, ?_⟩
      · change poll.added ++ [callback]
            = poll.invoked ++ poll.stage.callbacks ++ (poll.newCallbacks ++ [callback])
        rw [← List.append_assoc, ← prompt.inOrder]
      · have soon := prompt.soon
        simp only [soonInvoked, SocketPoll.addCallback, wakeUp] at soon ⊢
        split at soon <;> simp_all
        omega
  | insertNewSocket s => exact ⟨prompt.inOrder, fun _ => poll.wakeUp_pos capacity, prompt.soon⟩
  | setupPollFds stage =>
      have kept : ({ poll with stage := .polling } : SocketPoll S C).Prompt :=
        prompt.setStage (by rw [stage]; rfl) (by simp [stage]) rfl
      exact ⟨kept.inOrder, kept.woken, kept.soon⟩
  | polled stage revents => exact prompt.polled stage revents
  | takeNew stage => exact prompt.takeNew stage
  | invoke stage => exact prompt.invoke stage
  | removeSockets stage => exact ⟨prompt.inOrder, prompt.woken, prompt.soon⟩
  | checkSize stage =>
      have before : poll.stage.callbacks = [] ∧ poll.stage ≠ .returned true := by
        rcases stage with stage | stage <;> simp [stage, PollStage.callbacks]
      unfold checkSize
      split <;> exact prompt.setStage before.1 before.2 rfl
  | leave stage => exact prompt.setStage (by rw [stage]; rfl) (by simp [stage]) rfl
  | handle stage =>
      have kept := prompt.handling stage
      exact ⟨kept.inOrder, kept.woken, kept.soon⟩
  | erase stage =>
      have kept := prompt.handling stage
      exact ⟨kept.inOrder, kept.woken, kept.soon⟩
  | finish stage =>
      exact ⟨prompt.inOrder, fun waiting => prompt.woken (waiting.imp_right (absurd rfl)),
        prompt.soon⟩

-----------------------------------------------------------------------------------------
-- The events of a socket
-----------------------------------------------------------------------------------------

/-- The entries of the system call against the sockets: new sockets come behind them, only all
sockets are removed at once, and the loop, which goes down, removes only behind what is left.
-/
def Aligned (poll : SocketPoll S C) : Prop :=
  match poll.stage with
  | .outside => True
  | .polling => poll.pollFds.map Prod.fst = poll.pollSockets
  | .returned _ => poll.pollFds.map Prod.fst = poll.pollSockets
  | .invoking _ => poll.pollFds.map Prod.fst <+: poll.pollSockets ∨ poll.pollSockets = []
  | .handling left =>
      left ≤ poll.pollFds.length
        ∧ (poll.pollFds.map Prod.fst).take left = poll.pollSockets.take left

/-- Every socket gets its own events. -/
structure OwnEvents (poll : SocketPoll S C) : Prop where
  aligned : poll.Aligned
  handled : ∀ entry ∈ poll.handled, entry.1 = entry.2.1

/-- What is left in the loop is there, with its entry. -/
theorem OwnEvents.left {poll : SocketPoll S C} (own : poll.OwnEvents) {i : Nat}
    (stage : poll.stage = .handling (i + 1))
    : ∃ s revents, poll.pollSockets[i]? = some s ∧ poll.pollFds[i]? = some (s, revents) := by
  have aligned := own.aligned
  rw [Aligned, stage] at aligned
  obtain ⟨bound, same⟩ := aligned
  have entry : poll.pollFds[i]? = some poll.pollFds[i] := List.getElem?_eq_getElem bound
  have here := congrArg (·[i]?) same
  simp only [List.getElem?_take_of_lt (Nat.lt_succ_self i), List.getElem?_map, entry,
    Option.map_some] at here
  exact ⟨_, _, here.symm, entry⟩

/-- What is erased leaves the sockets in front of it alone. -/
theorem take_eraseIdx (sockets : List S) (i : Nat)
    : (sockets.eraseIdx i).take i = sockets.take i := by
  rw [List.eraseIdx_eq_take_drop_succ]
  rcases Nat.le_total i sockets.length with bound | bound
  · rw [List.take_append_of_le_length (by rw [List.length_take]; omega), List.take_take,
      Nat.min_self]
  · rw [List.drop_eq_nil_of_le (Nat.le_succ_of_le bound), List.append_nil, List.take_take,
      Nat.min_self]

/-- What was in front of a handled socket stays there. -/
theorem take_of_handled {poll : SocketPoll S C} {i : Nat}
    (aligned : (poll.pollFds.map Prod.fst).take (i + 1) = poll.pollSockets.take (i + 1))
    : (poll.pollFds.map Prod.fst).take i = poll.pollSockets.take i := by
  have shorter := congrArg (List.take i) aligned
  rwa [List.take_take, List.take_take, Nat.min_eq_left (Nat.le_succ i)] at shorter

/-- The loop handles a socket with its entry. -/
theorem OwnEvents.handle {poll : SocketPoll S C} (own : poll.OwnEvents) {i : Nat} {s : S}
    {pollFd : S × Int} (stage : poll.stage = .handling (i + 1))
    (socket : poll.pollSockets[i]? = some s) (events : poll.pollFds[i]? = some pollFd)
    : (poll.handle i s pollFd).OwnEvents := by
  have aligned := own.aligned
  rw [Aligned, stage] at aligned
  refine ⟨⟨Nat.le_of_succ_le aligned.1, take_of_handled aligned.2⟩, ?_⟩
  intro entry member
  rcases List.mem_append.mp member with before | here
  · exact own.handled entry before
  · obtain ⟨s', revents, socket', events'⟩ := own.left stage
    obtain rfl : s = s' := Option.some.inj (socket.symm.trans socket')
    obtain rfl : pollFd = (s, revents) := Option.some.inj (events.symm.trans events')
    rw [List.mem_singleton.mp here]

/-- New sockets are behind the entries, so that equal lengths mean equal lists. -/
theorem OwnEvents.checkSize {poll : SocketPoll S C} (own : poll.OwnEvents)
    (inFront
      : poll.pollFds.map Prod.fst <+: poll.pollSockets ∨ poll.pollSockets = [])
    : poll.checkSize.OwnEvents := by
  unfold SocketPoll.checkSize
  split
  · exact ⟨trivial, own.handled⟩
  case isFalse sizes =>
    have sizes : poll.pollSockets.length = poll.pollFds.length := not_not.mp sizes
    have same : poll.pollFds.map Prod.fst = poll.pollSockets := by
      rcases inFront with inFront | none'
      · exact inFront.eq_of_length ((List.length_map _).trans sizes.symm)
      · rw [none'] at sizes ⊢
        rw [List.length_eq_zero_iff.mp sizes.symm, List.map_nil]
    exact ⟨⟨Nat.le_refl _, by rw [same]⟩, own.handled⟩

/-- Whatever happens to a poll, its sockets are handled with their own events. -/
theorem OwnEvents.change {capacity : { n : Nat // 0 < n }} {poll next : SocketPoll S C}
    (own : poll.OwnEvents) (change : poll.Change capacity next)
    : next.OwnEvents := by
  have aligned := own.aligned
  cases change with
  | wakeUp => exact ⟨own.aligned, own.handled⟩
  | addCallback callback => exact ⟨own.aligned, own.handled⟩
  | insertNewSocket s => exact ⟨own.aligned, own.handled⟩
  | setupPollFds stage =>
      refine ⟨?_, own.handled⟩
      change (poll.pollSockets.map (·, (0 : Int))).map Prod.fst = poll.pollSockets
      rw [List.map_map]
      exact List.map_id _
  | polled stage revents =>
      rw [Aligned, stage] at aligned
      cases revents with
      | none => exact ⟨aligned, own.handled⟩
      | some revents =>
          refine ⟨?_, own.handled⟩
          change (poll.pollFds.map (fun pollFd => (pollFd.1, revents pollFd.1))).map Prod.fst
            = poll.pollSockets
          rw [List.map_map]
          exact aligned
  | takeNew stage =>
      rw [Aligned, stage] at aligned
      refine ⟨.inl ?_, own.handled⟩
      exact aligned ▸ List.prefix_append _ _
  | invoke stage =>
      rw [Aligned, stage] at aligned
      exact ⟨aligned, own.handled⟩
  | removeSockets stage =>
      refine ⟨?_, own.handled⟩
      rcases stage with stage | ⟨callbacks, stage⟩
      · rw [Aligned, removeSockets, stage]
        trivial
      · rw [Aligned, removeSockets, stage]
        exact .inr rfl
  | checkSize stage =>
      refine own.checkSize ?_
      rcases stage with stage | stage <;> rw [Aligned, stage] at aligned
      · exact .inl (aligned ▸ List.prefix_rfl)
      · exact aligned
  | leave stage => exact ⟨trivial, own.handled⟩
  | handle stage socket events => exact own.handle stage socket events
  | @erase i s pollFd stage socket events =>
      have handled := own.handle stage socket events
      obtain ⟨bound, same⟩ := handled.aligned
      refine ⟨⟨bound, ?_⟩, handled.handled⟩
      change (poll.pollFds.map Prod.fst).take i = (poll.pollSockets.eraseIdx i).take i
      rw [take_eraseIdx]
      exact same
  | finish stage =>
      refine ⟨?_, own.handled⟩
      rw [Aligned, finish, stage]
      trivial

end SocketPoll

namespace SocketPolls

-----------------------------------------------------------------------------------------
-- The owners of sockets
-----------------------------------------------------------------------------------------

variable {P S C : Type}

/-- Every socket is in one poll or in one pair of hands; a poll's thread owns those that it polls,
and nobody those in transit to it.
-/
structure Owned (system : SocketPolls P S C) : Prop where
  onePlace : OnePlace (fun p => (system.polls p).sockets) system.hands
  created : ∀ {p s}, s ∈ (system.polls p).sockets → s ∈ system.created
  createdHands : ∀ {s}, s ∈ system.hands → s ∈ system.created
  owner : ∀ {p s}, s ∈ (system.polls p).pollSockets → system.owner s = .poll p
  unowned : ∀ {p s}, s ∈ (system.polls p).newSockets → system.owner s = .none

/-- At first, there are no sockets. -/
theorem owned_start : (start : SocketPolls P S C).Owned where
  onePlace := .empty
  created member := absurd member List.not_mem_nil
  createdHands member := absurd member List.not_mem_nil
  owner member := absurd member List.not_mem_nil
  unowned member := absurd member List.not_mem_nil

/-- A change of a poll that leaves its sockets alone, or loses some. -/
theorem Owned.fewer [DecidableEq P] {system : SocketPolls P S C} (owned : system.Owned) (p : P)
    {update : SocketPoll S C → SocketPoll S C}
    (pollSockets : (update (system.polls p)).pollSockets.Sublist (system.polls p).pollSockets)
    (newSockets : (update (system.polls p)).newSockets.Sublist (system.polls p).newSockets)
    : (system.modify p update).Owned := by
  have polled (q : P)
      : ((system.modify p update).polls q).pollSockets.Sublist (system.polls q).pollSockets
        ∧ ((system.modify p update).polls q).newSockets.Sublist (system.polls q).newSockets := by
    by_cases same : q = p
    · subst same
      rw [polls_modify]
      exact ⟨pollSockets, newSockets⟩
    · rw [polls_modify_of_ne system same]
      exact ⟨List.Sublist.refl _, List.Sublist.refl _⟩
  have all (q : P)
      : ((system.modify p update).polls q).sockets.Sublist (system.polls q).sockets :=
    (polled q).1.append (polled q).2
  constructor
  · exact owned.onePlace.sublist all (List.Sublist.refl _)
  · exact fun member => owned.created ((all _).subset member)
  · exact owned.createdHands
  · exact fun member => owned.owner ((polled _).1.subset member)
  · exact fun member => owned.unowned ((polled _).2.subset member)

/-- A socket that is nowhere else gets into somebody's hands. -/
theorem Owned.hand {system : SocketPolls P S C} (owned : system.Owned) {s : S}
    (nowhere : ∀ p, s ∉ (system.polls p).sockets) (notInHands : s ∉ system.hands)
    (created : s ∈ system.created)
    : ({ system with hands := s :: system.hands } : SocketPolls P S C).Owned where
  onePlace := owned.onePlace.hand nowhere notInHands
  created := owned.created
  createdHands member := (List.mem_cons.mp member).elim (· ▸ created) owned.createdHands
  owner := owned.owner
  unowned := owned.unowned

variable [DecidableEq S]

/-- A new socket is at hand and in no poll. -/
theorem Owned.create {system : SocketPolls P S C} (owned : system.Owned) {s : S}
    (fresh : s ∉ system.created) (thread : ThreadId P)
    : ({
        system.setThreadOwner [s] thread with
        created := s :: system.created
        hands := s :: system.hands
      } : SocketPolls P S C).Owned := by
  have nowhere (p : P) : s ∉ (system.polls p).sockets := fun member => fresh (owned.created member)
  have others {p : P} {other : S} (member : other ∈ (system.polls p).sockets) : other ∉ [s] :=
    fun same => nowhere p (List.mem_singleton.mp same ▸ member)
  constructor
  · exact owned.onePlace.hand nowhere (fun member => fresh (owned.createdHands member))
  · exact fun member => List.mem_cons_of_mem _ (owned.created member)
  · intro other member
    rcases List.mem_cons.mp member with rfl | member
    · exact List.mem_cons_self
    · exact List.mem_cons_of_mem _ (owned.createdHands member)
  · intro p other member
    exact (if_neg (others (List.mem_append_left _ member))).trans (owned.owner member)
  · intro p other member
    exact (if_neg (others (List.mem_append_right _ member))).trans (owned.unowned member)

variable [DecidableEq P]

/-- A socket at hand is put on its way, and nobody owns it. -/
theorem Owned.insertNewSocket {system : SocketPolls P S C} (owned : system.Owned)
    (capacity : { n : Nat // 0 < n }) (p : P) {s : S} (held : s ∈ system.hands)
    : (({
          system.setThreadOwner [s] .none with
          hands := system.hands.erase s
        } : SocketPolls P S C).modify p (·.insertNewSocket capacity s)).Owned := by
  have others {q : P} {other : S} (member : other ∈ (system.polls q).sockets) : other ∉ [s] :=
    fun same => owned.onePlace.notInHands member (List.mem_singleton.mp same ▸ held)
  -- The poll gets the socket; all other polls stay as they are.
  have moved : (fun q =>
        ((system.modify p (·.insertNewSocket capacity s)).polls q).sockets)
      = Function.update (fun q => (system.polls q).sockets) p ((system.polls p).sockets ++ [s]) := by
    funext q
    by_cases same : q = p
    · subst same
      rw [polls_modify, Function.update_self]
      exact (List.append_assoc ..).symm
    · rw [polls_modify_of_ne system same, Function.update_of_ne same]
  have inserted {q : P} {other : S}
      (member : other ∈ ((system.modify p (·.insertNewSocket capacity s)).polls q).newSockets)
      : other ∈ (system.polls q).newSockets ∨ other ∈ [s] := by
    by_cases same : q = p
    · subst same
      rw [polls_modify] at member
      exact List.mem_append.mp member
    · rw [polls_modify_of_ne system same] at member
      exact .inl member
  have polled (q : P)
      : ((system.modify p (·.insertNewSocket capacity s)).polls q).pollSockets
        = (system.polls q).pollSockets := by
    by_cases same : q = p
    · subst same
      rw [polls_modify]
      rfl
    · rw [polls_modify_of_ne system same]
  have createdS : s ∈ system.created := owned.createdHands held
  constructor
  · exact moved ▸ owned.onePlace.put p held
  · intro q other member
    rcases List.mem_append.mp member with member | member
    · exact owned.created (List.mem_append_left _ (polled q ▸ member))
    · rcases inserted member with member | same
      · exact owned.created (List.mem_append_right _ member)
      · exact List.mem_singleton.mp same ▸ createdS
  · exact fun member => owned.createdHands (List.mem_of_mem_erase member)
  · intro q other member
    have member : other ∈ (system.polls q).pollSockets := polled q ▸ member
    exact (if_neg (others (List.mem_append_left _ member))).trans (owned.owner member)
  · intro q other member
    rcases inserted member with member | same
    · exact (if_neg (others (List.mem_append_right _ member))).trans (owned.unowned member)
    · exact if_pos same

/-- The thread takes over the sockets that are on their way to it. -/
theorem Owned.takeNew {system : SocketPolls P S C} (owned : system.Owned) (p : P)
    : ((system.setThreadOwner (system.polls p).newSockets (.poll p)).modify p
        (·.takeNew)).Owned := by
  have kept (q : P)
      : ((system.modify p (·.takeNew)).polls q).sockets = (system.polls q).sockets := by
    by_cases same : q = p
    · subst same
      rw [polls_modify]
      exact List.append_nil _
    · rw [polls_modify_of_ne system same]
  have all : (fun q => ((system.modify p (·.takeNew)).polls q).sockets)
      = fun q => (system.polls q).sockets :=
    funext kept
  constructor
  · exact all ▸ owned.onePlace
  · exact fun member => owned.created (kept _ ▸ member)
  · exact owned.createdHands
  · intro q other member
    change (if other ∈ (system.polls p).newSockets then .poll p else system.owner other) = .poll q
    by_cases same : q = p
    · subst same
      change other ∈ ((system.modify q (·.takeNew)).polls q).pollSockets at member
      rw [polls_modify] at member
      rcases List.mem_append.mp member with member | member
      · split
        · rfl
        · exact owned.owner member
      · exact if_pos member
    · change other ∈ ((system.modify p (·.takeNew)).polls q).pollSockets at member
      rw [polls_modify_of_ne system same] at member
      rw [if_neg]
      · exact owned.owner member
      · exact fun there => same
          (owned.onePlace.one (List.mem_append_left _ member) (List.mem_append_right _ there))
  · intro q other member
    change (if other ∈ (system.polls p).newSockets then .poll p else system.owner other) = .none
    by_cases same : q = p
    · subst same
      change other ∈ ((system.modify q (·.takeNew)).polls q).newSockets at member
      rw [polls_modify] at member
      exact absurd member List.not_mem_nil
    · change other ∈ ((system.modify p (·.takeNew)).polls q).newSockets at member
      rw [polls_modify_of_ne system same] at member
      rw [if_neg]
      · exact owned.unowned member
      · exact fun there => same
          (owned.onePlace.one (List.mem_append_right _ member) (List.mem_append_right _ there))

/-- Sockets are removed from a poll, and get free. -/
theorem Owned.release {system : SocketPolls P S C} (owned : system.Owned) (p : P)
    {update : SocketPoll S C → SocketPoll S C} {sockets : List S}
    (pollSockets : (update (system.polls p)).pollSockets.Sublist (system.polls p).pollSockets)
    (newSockets : (update (system.polls p)).newSockets.Sublist (system.polls p).newSockets)
    (before : ∀ s ∈ sockets, s ∈ (system.polls p).pollSockets)
    (after : ∀ s ∈ sockets, s ∉ (update (system.polls p)).pollSockets)
    : ((system.setThreadOwner sockets .none).modify p update).Owned := by
  have fewer := owned.fewer p pollSockets newSockets
  refine ⟨fewer.onePlace, fewer.created, fewer.createdHands, ?_, ?_⟩
  · intro q s member
    have kept : s ∉ sockets := by
      intro released
      by_cases same : q = p
      · subst same
        exact after s released (polls_modify system q update ▸ member)
      · change s ∈ ((system.modify p update).polls q).pollSockets at member
        rw [polls_modify_of_ne system same] at member
        exact same (owned.onePlace.one (List.mem_append_left _ member)
          (List.mem_append_left _ (before s released)))
    exact (if_neg kept).trans (fewer.owner member)
  · intro q s member
    change (if s ∈ sockets then ThreadId.none else system.owner s) = .none
    split
    · rfl
    · exact fewer.unowned member

/-- A socket leaves its poll and is at hand, and nobody owns it. -/
theorem Owned.move {system : SocketPolls P S C} (owned : system.Owned) (p : P) {i : Nat} {s : S}
    (pollFd : S × Int) (socket : (system.polls p).pollSockets[i]? = some s)
    : ({
        ((system.modify p (·.handle i s pollFd)).modify p (·.erase i)).setThreadOwner [s]
          .none with
        hands := s :: system.hands
      } : SocketPolls P S C).Owned := by
  rw [modify_modify]
  obtain ⟨bound, rfl⟩ := List.getElem?_eq_some_iff.mp socket
  have inPoll := List.getElem_mem bound
  have nodup := (List.nodup_append.mp (owned.onePlace.nodup p)).1
  have erased : ((system.polls p).pollSockets.eraseIdx i)
      = (system.polls p).pollSockets.erase (system.polls p).pollSockets[i] :=
    (nodup.erase_getElem i bound).symm
  have gone : (system.polls p).pollSockets[i] ∉ (system.polls p).pollSockets.eraseIdx i := by
    rw [erased]
    exact nodup.not_mem_erase
  have released
      : ((system.setThreadOwner [(system.polls p).pollSockets[i]] .none).modify p (fun poll =>
          (poll.handle i (system.polls p).pollSockets[i] pollFd).erase i)).Owned :=
    owned.release p (List.eraseIdx_sublist ..) (List.Sublist.refl _)
      (fun s member => List.mem_singleton.mp member ▸ inPoll)
      (fun s member => List.mem_singleton.mp member ▸ gone)
  refine released.hand ?_ (owned.onePlace.notInHands (List.mem_append_left _ inPoll))
    (owned.created (List.mem_append_left _ inPoll))
  intro q member
  by_cases same : q = p
  · subst same
    rw [polls_modify] at member
    rcases List.mem_append.mp member with member | member
    · exact gone member
    · exact (List.nodup_append.mp (owned.onePlace.nodup q)).2.2 _ inPoll _ member rfl
  · rw [polls_modify_of_ne _ same] at member
    exact same (owned.onePlace.one member (List.mem_append_left _ inPoll))

/-- Every step keeps the sockets apart. -/
theorem Owned.step {capacity : { n : Nat // 0 < n }} {system next : SocketPolls P S C}
    {event : PollEvent P S C} (owned : system.Owned)
    (done : system.step capacity event = some next)
    : next.Owned := by
  have same (p : P) {update : SocketPoll S C → SocketPoll S C}
      (pollSockets : (update (system.polls p)).pollSockets = (system.polls p).pollSockets)
      (newSockets : (update (system.polls p)).newSockets = (system.polls p).newSockets)
      : (system.modify p update).Owned :=
    owned.fewer p (pollSockets ▸ List.Sublist.refl _) (newSockets ▸ List.Sublist.refl _)
  cases event with
  | create s thread =>
      rw [SocketPolls.step] at done
      split at done <;> cases done
      exact owned.create ‹_› thread
  | wakeup p =>
      cases done
      exact same p rfl rfl
  | addCallback p callback =>
      cases done
      exact same p rfl rfl
  | insertNewSocket p s =>
      rw [SocketPolls.step] at done
      split at done <;> cases done
      exact owned.insertNewSocket capacity p ‹_›
  | setupPollFds p =>
      rw [SocketPolls.step] at done
      split at done <;> cases done
      exact same p rfl rfl
  | polled p revents =>
      rw [SocketPolls.step] at done
      split at done <;> cases done
      exact same p (by cases revents <;> rfl) (by cases revents <;> rfl)
  | takeNew p =>
      rw [SocketPolls.step] at done
      split at done <;> cases done
      exact owned.takeNew p
  | invoke p =>
      rw [SocketPolls.step] at done
      split at done <;> cases done
      exact same p rfl rfl
  | removeSockets p =>
      rw [SocketPolls.step] at done
      have released
          : ((system.setThreadOwner (system.polls p).pollSockets .none).modify p
              (·.removeSockets)).Owned :=
        owned.release p (List.nil_sublist _) (List.Sublist.refl _) (fun _ member => member)
          (fun _ _ => List.not_mem_nil)
      split at done <;> cases done <;> exact released
  | proceed p =>
      rw [SocketPolls.step] at done
      have checked : (system.modify p (·.checkSize)).Owned :=
        same p (by unfold SocketPoll.checkSize; split <;> rfl)
          (by unfold SocketPoll.checkSize; split <;> rfl)
      split at done <;> cases done
      · exact checked
      · exact checked
      · exact same p rfl rfl
  | handlePoll p disposition =>
      rw [SocketPolls.step] at done
      split at done
      case h_1 i stage =>
        obtain ⟨s, socket, done⟩ := Option.bind_eq_some_iff.mp done
        obtain ⟨pollFd, events, done⟩ := Option.bind_eq_some_iff.mp done
        cases disposition with
        | «continue» =>
            cases done
            exact same p rfl rfl
        | closed =>
            cases done
            rw [modify_modify]
            exact owned.fewer p (List.eraseIdx_sublist ..) (List.Sublist.refl _)
        | move =>
            cases done
            exact owned.move p pollFd socket
      case h_2 => cases done
  | finish p =>
      rw [SocketPolls.step] at done
      split at done <;> cases done
      exact owned.fewer p (List.nil_sublist _) (List.nil_sublist _)

/-- What every poll keeps and every step changes for one poll at most holds in every run. -/
theorem keeps_polls {capacity : { n : Nat // 0 < n }} {keeps : SocketPoll S C → Prop}
    (start' : keeps .start)
    (change
      : ∀ poll next : SocketPoll S C, keeps poll → poll.Change capacity next → keeps next)
    (events : List (PollEvent P S C))
    : AllStates (SocketPolls.step capacity) (fun system => ∀ p, keeps (system.polls p)) start
        events := by
  refine allStates_of_keeps ?_ (fun _ => start') events
  intro system event next before done p
  rcases step_polls done p with same | changed
  · rw [same]
    exact before p
  · exact change _ _ (before p) changed

/-- In every run, the callbacks of a poll are invoked once each and in the order in which they
were added, by whatever threads. Its wakeup pipe is readable as long as callbacks or sockets are
waiting for it, and whatever had been added when its system call returned has been invoked when it
leaves `poll`.
-/
theorem callbacks_in_order (capacity : { n : Nat // 0 < n }) (events : List (PollEvent P S C))
    : AllStates (SocketPolls.step capacity)
        (fun system =>
          ∀ p,
            (system.polls p).added
              = (system.polls p).invoked ++ (system.polls p).stage.callbacks
                  ++ (system.polls p).newCallbacks
            ∧ ((system.polls p).newCallbacks ≠ [] ∨ (system.polls p).newSockets ≠ []
                → 0 < (system.polls p).wakeup)
            ∧ ((system.polls p).stage = .outside
                → (system.polls p).added.take (system.polls p).returnedAt
                    <+: (system.polls p).invoked))
        start events := by
  have prompt
      : AllStates (SocketPolls.step capacity)
          (fun system : SocketPolls P S C => ∀ p, (system.polls p).Prompt) start events :=
    keeps_polls ⟨rfl, fun waiting => (waiting.elim (· rfl) (· rfl)).elim, Nat.le_refl 0⟩
      (fun _ _ prompt changed => prompt.change changed) events
  intro done rest reached split ran p
  have poll := prompt done rest reached split ran p
  refine ⟨poll.inOrder, poll.woken, fun stage => ?_⟩
  have soon := poll.soon
  rw [SocketPoll.soonInvoked, stage] at soon
  rw [poll.inOrder, List.append_assoc, List.take_append_of_le_length soon]
  exact List.take_prefix _ _

/-- In every run, no socket is in two polls, or twice in one. The thread of a poll owns the sockets
that it polls, nobody those that are on their way to it, and the loop over the sockets gives each
of them its own events and never leaves the two lists.
-/
theorem one_thread_per_socket (capacity : { n : Nat // 0 < n }) (events : List (PollEvent P S C))
    : AllStates (SocketPolls.step capacity)
        (fun system =>
          ∀ p,
            (system.polls p).sockets.Nodup
            ∧ (∀ q s, s ∈ (system.polls p).sockets → s ∈ (system.polls q).sockets → p = q)
            ∧ (∀ s ∈ (system.polls p).sockets, s ∉ system.hands)
            ∧ (∀ s ∈ (system.polls p).pollSockets, system.owner s = .poll p)
            ∧ (∀ s ∈ (system.polls p).newSockets, system.owner s = .none)
            ∧ (∀ entry ∈ (system.polls p).handled, entry.1 = entry.2.1)
            ∧ ∀ i,
                (system.polls p).stage = .handling (i + 1)
                → ∃ s revents,
                    (system.polls p).pollSockets[i]? = some s
                    ∧ (system.polls p).pollFds[i]? = some (s, revents))
        start events := by
  have own
      : AllStates (SocketPolls.step capacity)
          (fun system : SocketPolls P S C => ∀ p, (system.polls p).OwnEvents) start events :=
    keeps_polls ⟨trivial, fun _ member => absurd member List.not_mem_nil⟩
      (fun _ _ own changed => own.change changed) events
  have owned
      : AllStates (SocketPolls.step capacity) (fun system : SocketPolls P S C => system.Owned)
          start events :=
    allStates_of_keeps (fun _ _ _ owned done => owned.step done) owned_start events
  intro done rest reached split ran p
  have poll := own done rest reached split ran p
  have system := owned done rest reached split ran
  exact ⟨system.onePlace.nodup p, fun q s here there => system.onePlace.one here there,
    fun s here => system.onePlace.notInHands here, fun s here => system.owner here,
    fun s here => system.unowned here, poll.handled, fun i stage => poll.left stage⟩

end SocketPolls

end NdcOdfWeb.Net
