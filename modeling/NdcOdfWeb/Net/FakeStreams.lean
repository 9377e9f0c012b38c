import NdcOdfWeb.Foundation.StepRun
import NdcOdfWeb.Net.FakeSocket

/-! The records that pass through fake sockets, and what their ends are flagged for. -/

namespace NdcOdfWeb.Net

open NdcOdfWeb.Foundation

inductive SocketCall where
  | socket
  | pipe
  | listen (fd : Int)
  | connect (fd1 fd2 : Int)
  | accept (fd : Int)
  | read (fd : Int) (nbytes : Nat)
  | write (fd : Int) (data : List UInt8)
  | shutdown (fd : Int)
  | close (fd : Int)

/-- The sockets, with the records that were written for an end and that it has read, and the
ends that were closed.
-/
structure Traffic where
  fds : List FakeSocketPair
  sent : Int → List (List UInt8)
  got : Int → List (List UInt8)
  closed : List Int

namespace Traffic

def start : Traffic :=
  ⟨[], fun _ => [], fun _ => [], []⟩

/-- What an end has read after a call that returned `result`. -/
def gotAfter (traffic : Traffic) (fd : Int) (result : Except Errno (List UInt8))
    : Int → List (List UInt8) :=
  match result, pairAt traffic.fds fd with
  | .ok data, some pair =>
      if (pair.ends (sideOf fd)).shutdown ∨ (pair.ends (sideOf fd)).buffer = [] then traffic.got
      else Function.update traffic.got fd (traffic.got fd ++ [data])
  | _, _ => traffic.got

end Traffic

/-- One call. One that has to wait is still waiting afterwards. -/
def socketStep (traffic : Traffic) : SocketCall → Traffic
  | .socket => { traffic with fds := (fakeSocketSocket traffic.fds).fds }
  | .pipe => { traffic with fds := (fakeSocketPipe2 traffic.fds).fds }
  | .listen fd => { traffic with fds := (fakeSocketListen traffic.fds fd).fds }
  | .connect fd1 fd2 => { traffic with fds := (fakeSocketConnect traffic.fds fd1 fd2).fds }
  | .accept fd =>
      match fakeSocketAccept4 traffic.fds fd with
      | none => traffic
      | some outcome => { traffic with fds := outcome.fds }
  | .read fd nbytes =>
      let outcome := fakeSocketRead traffic.fds fd nbytes
      { traffic with fds := outcome.fds, got := traffic.gotAfter fd outcome.result }
  | .write fd data =>
      let outcome := fakeSocketWrite traffic.fds fd data
      match outcome.result with
      | .error _ => { traffic with fds := outcome.fds }
      | .ok _ =>
          {
            traffic with
            fds := outcome.fds
            sent := Function.update traffic.sent (peerOf fd) (traffic.sent (peerOf fd) ++ [data])
          }
  | .shutdown fd => { traffic with fds := (fakeSocketShutdown traffic.fds fd).fds }
  | .close fd =>
      let outcome := fakeSocketClose traffic.fds fd
      match outcome.result with
      | .error _ => { traffic with fds := outcome.fds }
      | .ok _ => { traffic with fds := outcome.fds, closed := fd :: traffic.closed }

/-- The peer of an end is shut down, or it was closed. -/
def peerGone (closed : List Int) (pair : FakeSocketPair) (fd : Int) : Bool :=
  (pair.ends !sideOf fd).shutdown
    || (decide ((pair.ends !sideOf fd).fd = -1) && decide (peerOf fd ∈ closed))

/-- A record is pending for an end, or its peer is gone. -/
def hasNews (closed : List Int) (pair : FakeSocketPair) (fd : Int) : Bool :=
  !(pair.ends (sideOf fd)).buffer.isEmpty || peerGone closed pair fd

/-- No end is shut down before both have something to be flagged for, and no end that was
closed is connected anew.
-/
def endsInOrder (traffic : Traffic) : SocketCall → Bool
  | .accept fd =>
      (pairAt traffic.fds fd).all
        (fun pair =>
          decide (pair.connectingFd = -1)
            || decide (peerOf pair.connectingFd ∉ traffic.closed))
  | .shutdown fd =>
      (pairAt traffic.fds fd).all
        (fun pair =>
          decide ((pair.ends (sideOf fd)).fd = -1)
            || decide ((pair.ends !sideOf fd).fd = -1)
            || (hasNews traffic.closed pair fd && hasNews traffic.closed pair (peerOf fd)))
  | _ => true

-----------------------------------------------------------------------------------------
-- Numbers and pairs
-----------------------------------------------------------------------------------------

/-- The peer is the other side. -/
theorem sideOf_peerOf (fd : Int) : sideOf (peerOf fd) = !sideOf fd := by
  unfold peerOf sideOf
  by_cases odd : fd % 2 = 1
  · have even : ¬ (fd - 1) % 2 = 1 := by omega
    simp only [decide_eq_true odd, if_true, decide_eq_false even, Bool.not_true]
  · have other : (fd + 1) % 2 = 1 := by omega
    simp only [decide_eq_false odd, Bool.false_eq_true, if_false, decide_eq_true other,
      Bool.not_false]

/-- Odd descriptors are one side, even ones the other. -/
theorem peerOf_cases (fd : Int)
    : (sideOf fd = true ∧ fd % 2 = 1 ∧ peerOf fd = fd - 1)
      ∨ (sideOf fd = false ∧ fd % 2 = 0 ∧ peerOf fd = fd + 1) := by
  unfold peerOf
  cases side : sideOf fd with
  | true => exact .inl ⟨rfl, of_decide_eq_true side, rfl⟩
  | false =>
      have even := of_decide_eq_false side
      exact .inr ⟨rfl, by omega, rfl⟩

/-- The peer's peer is the descriptor itself. -/
theorem peerOf_peerOf (fd : Int) : peerOf (peerOf fd) = fd := by
  have side := sideOf_peerOf fd
  rcases peerOf_cases fd with ⟨here, -, there⟩ | ⟨here, -, there⟩
  · rw [here] at side
    rw [peerOf, side, there]
    simp
  · rw [here] at side
    rw [peerOf, side, there]
    simp

/-- Nothing is its own peer. -/
theorem peerOf_ne (fd : Int) : peerOf fd ≠ fd := by
  rcases peerOf_cases fd with ⟨-, -, there⟩ | ⟨-, -, there⟩ <;> omega

/-- Both sides of a pair have one index. -/
theorem half_peerOf (fd : Int) : peerOf fd / 2 = fd / 2 := by
  rcases peerOf_cases fd with ⟨-, odd, there⟩ | ⟨-, even, there⟩ <;> omega

/-- The numbers of a pair. -/
theorem same_pair {fd other : Int} (same : other / 2 = fd / 2) : other = fd ∨ other = peerOf fd := by
  rcases peerOf_cases fd with ⟨-, odd, there⟩ | ⟨-, even, there⟩ <;> omega

/-- Both sides find one pair. -/
theorem pairAt_peerOf (fds : List FakeSocketPair) (fd : Int)
    : pairAt fds (peerOf fd) = pairAt fds fd := by
  have half := half_peerOf fd
  unfold pairAt
  by_cases negative : fd < 0
  · rw [if_pos negative, if_pos (by omega)]
  · rw [if_neg negative, if_neg (by omega), half]

/-- What is found has an index in the vector. -/
theorem pairAt_range {fds : List FakeSocketPair} {fd : Int} {pair : FakeSocketPair}
    (found : pairAt fds fd = some pair)
    : 0 ≤ fd ∧ fd / 2 < fds.length := by
  unfold pairAt at found
  split at found
  · cases found
  · have inside := (List.getElem?_eq_some_iff.mp found).1
    omega

/-- The changed pair, or another one. -/
theorem pairAt_setPair {fds : List FakeSocketPair} {fd : Int} {pair : FakeSocketPair}
    (found : pairAt fds fd = some pair) (changed : FakeSocketPair) {other : Int}
    {after : FakeSocketPair} (there : pairAt (setPair fds fd changed) other = some after)
    : (other / 2 = fd / 2 ∧ after = changed)
      ∨ (other / 2 ≠ fd / 2 ∧ pairAt fds other = some after) := by
  obtain ⟨positive, inside⟩ := pairAt_range found
  unfold pairAt setPair at there
  split at there
  · cases there
  · next nonneg =>
      rw [List.getElem?_set] at there
      split at there
      · next same =>
          rw [if_pos (by omega)] at there
          cases there
          exact .inl ⟨by omega, rfl⟩
      · next differs =>
          refine .inr ⟨by omega, ?_⟩
          rw [pairAt, if_neg nonneg]
          exact there

/-- An old pair, or the new one at the end. -/
theorem pairAt_append {fds : List FakeSocketPair} {new : FakeSocketPair} {other : Int}
    {after : FakeSocketPair} (there : pairAt (fds ++ [new]) other = some after)
    : pairAt fds other = some after
      ∨ (after = new ∧ 2 * (fds.length : Int) ≤ other ∧ other / 2 = fds.length) := by
  unfold pairAt at there ⊢
  split at there
  · cases there
  · next nonneg =>
      rw [if_neg nonneg]
      rcases Nat.lt_or_ge (other / 2).toNat fds.length with inside | outside
      · rw [List.getElem?_append_left inside] at there
        exact .inl there
      · rw [List.getElem?_append_right outside] at there
        obtain ⟨first, found⟩ := List.getElem?_eq_some_iff.mp there
        rw [List.length_singleton] at first
        rw [List.getElem_singleton] at found
        exact .inr ⟨found.symm, by omega, by omega⟩

end NdcOdfWeb.Net
