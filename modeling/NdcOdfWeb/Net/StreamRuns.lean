import Mathlib.Tactic.SplitIfs
import NdcOdfWeb.Net.FakeStreams

/-! Runs of calls on fake sockets keep the law of their streams, as long as ends are shut down
and connected in order.
-/

namespace NdcOdfWeb.Net

open NdcOdfWeb.Foundation

-----------------------------------------------------------------------------------------
-- What each call does
-----------------------------------------------------------------------------------------

section Calls

variable (fds : List FakeSocketPair) (fd : Int)

/-- To listen fails or sets the flag. -/
theorem fakeSocketListen_cases
    : (∃ errno, fakeSocketListen fds fd = failWith fds errno)
      ∨ ∃ pair,
          pairAt fds fd = some pair
          ∧ fakeSocketListen fds fd
            = ⟨.ok (), setPair fds fd { pair with listening := true, connectingFd := -1 }, false⟩ := by
  unfold fakeSocketListen
  split
  · exact .inl ⟨_, rfl⟩
  · next pair found =>
      split_ifs
      · exact .inl ⟨_, rfl⟩
      · exact .inl ⟨_, rfl⟩
      · exact .inl ⟨_, rfl⟩
      · exact .inr ⟨pair, found, rfl⟩

/-- To connect fails or leaves the descriptor with the listening pair. -/
theorem fakeSocketConnect_cases (fd2 : Int)
    : (∃ errno, fakeSocketConnect fds fd fd2 = failWith fds errno)
      ∨ ∃ pair,
          pairAt fds fd2 = some pair
          ∧ sideOf fd = false
          ∧ fakeSocketConnect fds fd fd2
            = ⟨.ok (), setPair fds fd2 { pair with connectingFd := fd }, true⟩ := by
  unfold fakeSocketConnect
  split
  · next pair pair2 found found2 =>
      split_ifs with same upper refused
      · exact .inl ⟨_, rfl⟩
      · exact .inl ⟨_, rfl⟩
      · exact .inl ⟨_, rfl⟩
      · rw [not_or, Bool.not_eq_true] at upper
        exact .inr ⟨pair2, found2, upper.1, rfl⟩
  · exact .inl ⟨_, rfl⟩

/-- To accept waits, fails, or joins the connecting socket to the pair. -/
theorem fakeSocketAccept4_cases
    : fakeSocketAccept4 fds fd = none
      ∨ (∃ errno, fakeSocketAccept4 fds fd = some (failWith fds errno))
      ∨ ∃ pair pair2,
          pairAt fds fd = some pair
          ∧ pair.connectingFd ≠ -1
          ∧ pairAt (setPair fds fd { pair with connectingFd := -1 }) pair.connectingFd = some pair2
          ∧ fakeSocketAccept4 fds fd
            = some
                ⟨.ok ((pair2.ends false).fd + 1),
                  setPair (setPair fds fd { pair with connectingFd := -1 }) pair.connectingFd
                    (pair2.setEnd true
                      { pair2.ends true with fd := (pair2.ends false).fd + 1 }),
                  true⟩ := by
  unfold fakeSocketAccept4
  split
  · exact .inr (.inl ⟨_, rfl⟩)
  · next pair found =>
      split_ifs with upper listening waiting
      · exact .inr (.inl ⟨_, rfl⟩)
      · exact .inr (.inl ⟨_, rfl⟩)
      · exact .inl rfl
      · dsimp only
        cases connecting : pairAt (setPair fds fd { pair with connectingFd := -1 })
            pair.connectingFd with
        | none => exact .inl rfl
        | some pair2 => exact .inr (.inr ⟨pair, pair2, found, waiting, connecting, rfl⟩)

/-- To write fails or appends a record to the buffer of the peer. -/
theorem fakeSocketWrite_cases (data : List UInt8)
    : (∃ errno, fakeSocketWrite fds fd data = failWith fds errno)
      ∨ ∃ pair,
          pairAt fds fd = some pair
          ∧ (pair.ends (sideOf fd)).fd ≠ -1
          ∧ fakeSocketWrite fds fd data
            = ⟨.ok data.length,
                setPair fds fd
                  (pair.setEnd (!sideOf fd)
                    {
                      pair.ends (!sideOf fd) with
                      buffer := (pair.ends (!sideOf fd)).buffer ++ [data]
                      readable := true
                    }),
                true⟩ := by
  unfold fakeSocketWrite
  split
  · exact .inl ⟨_, rfl⟩
  · next pair found =>
      dsimp only
      split_ifs with absent shut
      · exact .inl ⟨_, rfl⟩
      · exact .inl ⟨_, rfl⟩
      · exact .inr ⟨pair, found, absent, rfl⟩

/-- A read fails, or the end is shut down, or it gets what is next. -/
theorem fakeSocketRead_cases (nbytes : Nat)
    : (∃ errno, fakeSocketRead fds fd nbytes = failWith fds errno)
      ∨ ∃ pair,
          pairAt fds fd = some pair
          ∧ (pair.ends (sideOf fd)).fd ≠ -1
          ∧ (((pair.ends (sideOf fd)).shutdown = true
                ∧ fakeSocketRead fds fd nbytes = ⟨.ok [], fds, false⟩)
              ∨ (pair.ends (sideOf fd)).shutdown = false
                ∧ (pair.ends (sideOf fd)).readable = true
                ∧ (((pair.ends (sideOf fd)).buffer = []
                      ∧ fakeSocketRead fds fd nbytes
                        = ⟨.ok [], setPair fds fd (pair.leave (sideOf fd) []), true⟩)
                    ∨ ∃ record rest,
                        (pair.ends (sideOf fd)).buffer = record :: rest
                        ∧ fakeSocketRead fds fd nbytes
                          = ⟨.ok record, setPair fds fd (pair.leave (sideOf fd) rest), true⟩)) := by
  unfold fakeSocketRead
  split
  · exact .inl ⟨_, rfl⟩
  · next pair found =>
      dsimp only
      split_ifs with absent shut unreadable
      · exact .inl ⟨_, rfl⟩
      · exact .inr ⟨pair, found, absent, .inl ⟨shut, rfl⟩⟩
      · exact .inl ⟨_, rfl⟩
      · have open_ := (Bool.not_eq_true _).mp shut
        have readable : (pair.ends (sideOf fd)).readable = true := by simpa using unreadable
        cases pending : (pair.ends (sideOf fd)).buffer with
        | nil => exact .inr ⟨pair, found, absent, .inr ⟨open_, readable, .inl ⟨pending, rfl⟩⟩⟩
        | cons record rest =>
            dsimp only
            split_ifs
            · exact .inl ⟨_, rfl⟩
            · exact .inr
                ⟨pair, found, absent, .inr ⟨open_, readable, .inr ⟨record, rest, pending, rfl⟩⟩⟩

/-- To shut down fails or sets the flag of the own end. -/
theorem fakeSocketShutdown_cases
    : (∃ errno, fakeSocketShutdown fds fd = failWith fds errno)
      ∨ ∃ pair,
          pairAt fds fd = some pair
          ∧ (pair.ends (sideOf fd)).fd ≠ -1
          ∧ (pair.ends (!sideOf fd)).fd ≠ -1
          ∧ fakeSocketShutdown fds fd
            = ⟨.ok (),
                setPair fds fd
                  (pair.setEnd (sideOf fd)
                    { pair.ends (sideOf fd) with shutdown := true, readable := true }),
                false⟩ := by
  unfold fakeSocketShutdown
  split
  · exact .inl ⟨_, rfl⟩
  · next pair found =>
      dsimp only
      split_ifs with absent alone
      · exact .inl ⟨_, rfl⟩
      · exact .inl ⟨_, rfl⟩
      · exact .inr ⟨pair, found, absent, alone, rfl⟩

/-- To close fails or takes the own number and buffer away. -/
theorem fakeSocketClose_cases
    : (∃ errno, fakeSocketClose fds fd = failWith fds errno)
      ∨ ∃ pair,
          pairAt fds fd = some pair
          ∧ (pair.ends (sideOf fd)).fd ≠ -1
          ∧ fakeSocketClose fds fd
            = ⟨.ok (),
                setPair fds fd
                  ((pair.setEnd (sideOf fd)
                      { pair.ends (sideOf fd) with fd := -1, buffer := [] }).setEnd (!sideOf fd)
                    { pair.ends (!sideOf fd) with readable := true }),
                true⟩ := by
  unfold fakeSocketClose
  split
  · exact .inl ⟨_, rfl⟩
  · next pair found =>
      dsimp only
      split_ifs with absent
      · exact .inl ⟨_, rfl⟩
      · exact .inr ⟨pair, found, absent, rfl⟩

end Calls

-----------------------------------------------------------------------------------------
-- The invariant
-----------------------------------------------------------------------------------------

/-- What a run keeps of an end, also while it waits for its number. -/
structure EndOk (traffic : Traffic) (fd : Int) (pair : FakeSocketPair) : Prop where
  unclosed : (pair.ends (sideOf fd)).fd ≠ -1 → fd ∉ traffic.closed
  stream
    : fd ∉ traffic.closed → traffic.sent fd = traffic.got fd ++ (pair.ends (sideOf fd)).buffer
  flagged
    : fd ∉ traffic.closed
      → (pair.ends (sideOf fd)).readable = hasNews traffic.closed pair fd
  apart
    : (pair.ends (sideOf fd)).fd = -1
      → fd ∉ traffic.closed
      → (pair.ends (!sideOf fd)).buffer = [] ∧ (pair.ends (sideOf fd)).shutdown = false

/-- What a run keeps of the numbers in a pair. -/
structure PairOk (pair : FakeSocketPair) : Prop where
  lower : -1 ≤ (pair.ends false).fd
  connecting : pair.connectingFd = -1 ∨ sideOf pair.connectingFd = false

/-- All ends are as they should be, and nothing is known of the numbers yet to come. -/
structure InOrder (traffic : Traffic) : Prop where
  ends : ∀ fd pair, pairAt traffic.fds fd = some pair → EndOk traffic fd pair
  pairs : ∀ fd pair, pairAt traffic.fds fd = some pair → PairOk pair
  unused
    : ∀ fd,
        2 * (traffic.fds.length : Int) ≤ fd
        → fd ∉ traffic.closed ∧ traffic.sent fd = [] ∧ traffic.got fd = []

/-- The same is known of a number. -/
structure SameFor (before after : Traffic) (fd : Int) : Prop where
  closed : fd ∈ after.closed ↔ fd ∈ before.closed
  sent : after.sent fd = before.sent fd
  got : after.got fd = before.got fd

/-- An end for which nothing has changed. -/
theorem EndOk.congr {before after : Traffic} {fd : Int} {pair : FakeSocketPair}
    (ok : EndOk before fd pair) (this : SameFor before after fd)
    (peer : peerOf fd ∈ after.closed ↔ peerOf fd ∈ before.closed)
    : EndOk after fd pair where
  unclosed present closed := ok.unclosed present (this.closed.mp closed)
  stream open_ := by
    rw [this.sent, this.got]
    exact ok.stream (mt this.closed.mpr open_)
  flagged open_ := by
    rw [ok.flagged (mt this.closed.mpr open_), hasNews, hasNews, peerGone, peerGone,
      decide_eq_decide.mpr peer]
  apart absent open_ := ok.apart absent (mt this.closed.mpr open_)

/-- A call that changes one pair, and what is known of its ends. -/
theorem InOrder.change {before after : Traffic} {fd : Int} {pair changed : FakeSocketPair}
    (inOrder : InOrder before) (found : pairAt before.fds fd = some pair)
    (fds : after.fds = setPair before.fds fd changed)
    (others : ∀ other, other ≠ fd → other ≠ peerOf fd → SameFor before after other)
    (ok : PairOk changed) (this : EndOk after fd changed) (peer : EndOk after (peerOf fd) changed)
    : InOrder after where
  ends other pair' there := by
    rw [fds] at there
    rcases pairAt_setPair found changed there with ⟨same, rfl⟩ | ⟨differs, old⟩
    · rcases same_pair same with rfl | rfl
      · exact this
      · exact peer
    · have half := half_peerOf other
      have half' := half_peerOf fd
      refine (inOrder.ends other pair' old).congr (others other ?_ ?_) (others _ ?_ ?_).closed
      all_goals
        intro equal
        omega
  pairs other pair' there := by
    rw [fds] at there
    rcases pairAt_setPair found changed there with ⟨same, rfl⟩ | ⟨differs, old⟩
    · exact ok
    · exact inOrder.pairs other pair' old
  unused other high := by
    rw [fds, setPair, List.length_set] at high
    have inside := (pairAt_range found).2
    have half := half_peerOf fd
    have same := others other (by omega) (by omega)
    obtain ⟨open_, sent, got⟩ := inOrder.unused other high
    exact ⟨mt same.closed.mp open_, same.sent.trans sent, same.got.trans got⟩

/-- A pair that was just made, below which there are `length` others. -/
structure Fresh (length : Nat) (pair : FakeSocketPair) : Prop where
  buffers : ∀ side, (pair.ends side).buffer = []
  flags : ∀ side, (pair.ends side).readable = false
  shut : ∀ side, (pair.ends side).shutdown = false
  number : (pair.ends false).fd = 2 * length
  waiting : pair.connectingFd = -1

/-- A fresh pair comes behind the others. -/
theorem InOrder.extend {traffic : Traffic} {pair : FakeSocketPair} (inOrder : InOrder traffic)
    (fresh : Fresh traffic.fds.length pair)
    : InOrder { traffic with fds := traffic.fds ++ [pair] } where
  ends fd after there := by
    rcases pairAt_append there with old | ⟨rfl, high, half⟩
    · exact (inOrder.ends fd after old).congr ⟨.rfl, rfl, rfl⟩ .rfl
    · have peerHigh : 2 * (traffic.fds.length : Int) ≤ peerOf fd := by
        have half' := half_peerOf fd
        omega
      obtain ⟨open_, sent, got⟩ := inOrder.unused fd high
      have peerOpen := (inOrder.unused (peerOf fd) peerHigh).1
      exact
        {
          unclosed := fun _ => open_
          stream := fun _ => by rw [sent, got, fresh.buffers]; rfl
          flagged := fun _ => by
            rw [fresh.flags, hasNews, peerGone, fresh.buffers, fresh.shut,
              decide_eq_false peerOpen, Bool.and_false]
            rfl
          apart := fun _ _ => ⟨fresh.buffers _, fresh.shut _⟩
        }
  pairs fd after there := by
    rcases pairAt_append there with old | ⟨rfl, high, half⟩
    · exact inOrder.pairs fd after old
    · refine ⟨?_, .inl fresh.waiting⟩
      rw [fresh.number]
      omega
  unused fd high := by
    refine inOrder.unused fd ?_
    rw [List.length_append] at high
    omega

-----------------------------------------------------------------------------------------
-- What each call keeps
-----------------------------------------------------------------------------------------

/-- An end keeps its number or loses it. -/
theorem PairOk.setEnd {pair : FakeSocketPair} (ok : PairOk pair) (side : Bool)
    {changed : FakeSocketEnd} (number : changed.fd = (pair.ends side).fd ∨ changed.fd = -1)
    : PairOk (pair.setEnd side changed) where
  lower := by
    have lower := ok.lower
    cases side with
    | false =>
        rw [FakeSocketPair.setEnd_self]
        omega
    | true => exact (FakeSocketPair.setEnd_other pair true changed).symm ▸ lower
  connecting := ok.connecting

section Calls

variable {traffic : Traffic} (inOrder : InOrder traffic)

include inOrder

/-- The peer of an end is in order, too. -/
theorem InOrder.peer {fd : Int} {pair : FakeSocketPair}
    (found : pairAt traffic.fds fd = some pair)
    : EndOk traffic (peerOf fd) pair := by
  refine inOrder.ends (peerOf fd) pair ?_
  rwa [pairAt_peerOf]

/-- To write: the record goes from the sent bytes of one end into the buffer of the other. -/
theorem InOrder.write (fd : Int) (data : List UInt8)
    : InOrder (socketStep traffic (.write fd data)) := by
  rcases fakeSocketWrite_cases traffic.fds fd data with
    ⟨errno, failed⟩ | ⟨pair, found, present, written⟩
  · rw [socketStep, failed]
    exact inOrder
  · have this := inOrder.ends fd pair found
    have peer := inOrder.peer found
    have side := sideOf_peerOf fd
    simp only [socketStep, written]
    refine inOrder.change found rfl ?_ ((inOrder.pairs fd pair found).setEnd _ (.inl rfl)) ?_ ?_
    · intro other _ away
      exact ⟨.rfl, Function.update_of_ne away .., rfl⟩
    · exact
        {
          unclosed := fun _ => this.unclosed present
          stream := fun open_ => by
            simpa [(peerOf_ne fd).symm] using this.stream open_
          flagged := fun open_ => by
            simpa [hasNews, peerGone] using this.flagged open_
          apart := fun absent => by
            rw [FakeSocketPair.setEnd_not] at absent
            exact absurd absent present
        }
    · exact
        {
          unclosed := fun there => peer.unclosed (by simpa [side] using there)
          stream := fun open_ => by
            simp [side, peer.stream open_]
          flagged := fun _ => by
            simp [hasNews, side]
          apart := fun absent open_ => by
            simpa [side] using peer.apart (by simpa [side] using absent) open_
        }

/-- To close: the end is gone, and its peer is readable. -/
theorem InOrder.close (fd : Int) : InOrder (socketStep traffic (.close fd)) := by
  rcases fakeSocketClose_cases traffic.fds fd with
    ⟨errno, failed⟩ | ⟨pair, found, present, closed⟩
  · rw [socketStep, failed]
    exact inOrder
  · have peer := inOrder.peer found
    have side := sideOf_peerOf fd
    have peerOpen : ∀ {more : List Int}, peerOf fd ∉ fd :: more → peerOf fd ∉ more :=
      fun open_ within => open_ (List.mem_cons_of_mem _ within)
    simp only [socketStep, closed]
    refine inOrder.change found rfl ?_
      (((inOrder.pairs fd pair found).setEnd _ (.inr rfl)).setEnd _ (.inl ?_)) ?_ ?_
    · intro other away _
      exact ⟨List.mem_cons.trans (or_iff_right away), rfl, rfl⟩
    · rw [FakeSocketPair.setEnd_other]
    · have gone : fd ∈ fd :: traffic.closed := List.mem_cons_self
      exact
        {
          unclosed := fun there => by simp at there
          stream := fun open_ => absurd gone open_
          flagged := fun open_ => absurd gone open_
          apart := fun _ open_ => absurd gone open_
        }
    · exact
        {
          unclosed := fun there within => by
            refine peer.unclosed (by simpa [side] using there) ?_
            exact (List.mem_cons.mp within).resolve_left (peerOf_ne fd)
          stream := fun open_ => by
            simpa [side] using peer.stream (peerOpen open_)
          flagged := fun _ => by
            simp [hasNews, peerGone, side, peerOf_peerOf]
          apart := fun absent open_ => by
            have apart := peer.apart (by simpa [side] using absent) (peerOpen open_)
            simpa [side] using apart.2
        }

/-- To shut down, where both ends are there. -/
theorem InOrder.shutdown (fd : Int) (fits : endsInOrder traffic (.shutdown fd) = true)
    : InOrder (socketStep traffic (.shutdown fd)) := by
  rcases fakeSocketShutdown_cases traffic.fds fd with
    ⟨errno, failed⟩ | ⟨pair, found, present, paired, shut⟩
  · rw [socketStep, failed]
    exact inOrder
  · have this := inOrder.ends fd pair found
    have peer := inOrder.peer found
    have side := sideOf_peerOf fd
    have news : hasNews traffic.closed pair fd = true
        ∧ hasNews traffic.closed pair (peerOf fd) = true := by
      simpa [endsInOrder, found, present, paired] using fits
    simp only [socketStep, shut]
    refine inOrder.change found rfl (fun _ _ _ => ⟨.rfl, rfl, rfl⟩)
      ((inOrder.pairs fd pair found).setEnd _ (.inl rfl)) ?_ ?_
    · exact
        {
          unclosed := fun _ => this.unclosed present
          stream := fun open_ => by
            simpa using this.stream open_
          flagged := fun open_ => by
            simpa [hasNews, peerGone] using news.1
          apart := fun absent => by
            rw [FakeSocketPair.setEnd_self] at absent
            exact absurd absent present
        }
    · exact
        {
          unclosed := fun there => peer.unclosed (by simpa [side] using there)
          stream := fun open_ => by
            simpa [side] using peer.stream open_
          flagged := fun open_ => by
            have flagged := peer.flagged open_
            rw [news.2] at flagged
            simpa [hasNews, peerGone, side] using flagged
          apart := fun absent => absurd (by simpa [side] using absent) paired
        }

/-- Nothing can be read from an end whose peer is yet to come. -/
theorem InOrder.peer_closed {fd : Int} {pair : FakeSocketPair}
    (found : pairAt traffic.fds fd = some pair) (present : (pair.ends (sideOf fd)).fd ≠ -1)
    (readable : (pair.ends (sideOf fd)).readable = true)
    (absent : (pair.ends (!sideOf fd)).fd = -1)
    : peerOf fd ∈ traffic.closed := by
  by_contra waiting
  have this := inOrder.ends fd pair found
  have side := sideOf_peerOf fd
  have apart := (inOrder.peer found).apart (by simpa [side] using absent) waiting
  rw [side, Bool.not_not] at apart
  have flagged := this.flagged (this.unclosed present)
  simp [readable, hasNews, peerGone, apart, waiting] at flagged

/-- A readable end hangs up if and only if its peer has closed. -/
theorem InOrder.hangUp {fd : Int} {pair : FakeSocketPair}
    (found : pairAt traffic.fds fd = some pair) (present : (pair.ends (sideOf fd)).fd ≠ -1)
    (readable : (pair.ends (sideOf fd)).readable = true)
    : pair.hangUp (sideOf fd) = peerGone traffic.closed pair fd := by
  by_cases absent : (pair.ends (!sideOf fd)).fd = -1
  · have gone := inOrder.peer_closed found present readable absent
    simp [FakeSocketPair.hangUp, peerGone, absent, gone]
  · simp [FakeSocketPair.hangUp, peerGone, absent]

/-- A read that leaves an end with the records that it has not got. -/
theorem InOrder.leave {after : Traffic} {fd : Int} {pair : FakeSocketPair}
    {buffer : List (List UInt8)} (found : pairAt traffic.fds fd = some pair)
    (present : (pair.ends (sideOf fd)).fd ≠ -1)
    (readable : (pair.ends (sideOf fd)).readable = true)
    (fds : after.fds = setPair traffic.fds fd (pair.leave (sideOf fd) buffer))
    (others : ∀ other, other ≠ fd → SameFor traffic after other)
    (closed : fd ∈ after.closed ↔ fd ∈ traffic.closed)
    (stream : after.sent fd = after.got fd ++ buffer)
    : InOrder after := by
  have this := inOrder.ends fd pair found
  have side := sideOf_peerOf fd
  have peerSame := others (peerOf fd) (peerOf_ne fd)
  have peer := (inOrder.peer found).congr peerSame (by rwa [peerOf_peerOf])
  have hangUp := inOrder.hangUp found present readable
  refine inOrder.change found fds (fun other away _ => others other away)
    ((inOrder.pairs fd pair found).setEnd _ (.inl rfl)) ?_ ?_
  · exact
      {
        unclosed := fun _ within => this.unclosed present (closed.mp within)
        stream := fun _ => by simpa [FakeSocketPair.leave] using stream
        flagged := fun _ => by
          have same : peerGone after.closed (pair.leave (sideOf fd) buffer) fd
              = peerGone traffic.closed pair fd := by
            simp [peerGone, FakeSocketPair.leave, peerSame.closed]
          rw [hasNews, same, ← hangUp]
          simp only [FakeSocketPair.leave, FakeSocketPair.setEnd_self, readable]
          cases pair.hangUp (sideOf fd) with
          | true => simp
          | false => cases buffer <;> simp
        apart := fun absent => by
          rw [FakeSocketPair.leave, FakeSocketPair.setEnd_self] at absent
          exact absurd absent present
      }
  · exact
      {
        unclosed := fun there => peer.unclosed (by simpa [FakeSocketPair.leave, side] using there)
        stream := fun open_ => by
          simpa [FakeSocketPair.leave, side] using peer.stream open_
        flagged := fun open_ => by
          simpa [FakeSocketPair.leave, hasNews, peerGone, side] using peer.flagged open_
        apart := fun absent open_ => by
          have gone := inOrder.peer_closed found present readable
            (by simpa [FakeSocketPair.leave, side] using absent)
          exact absurd (peerSame.closed.mpr gone) open_
      }

/-- To read: the first record goes from the buffer to the bytes that were got, or the rest of it
stays.
-/
theorem InOrder.read (fd : Int) (nbytes : Nat)
    : InOrder (socketStep traffic (.read fd nbytes)) := by
  rcases fakeSocketRead_cases traffic.fds fd nbytes with
    ⟨errno, failed⟩ | ⟨pair, found, present,
      ⟨shut, done⟩ | ⟨open_, readable, ⟨empty, done⟩ | ⟨record, rest, pending, done⟩⟩⟩
  · rw [socketStep, failed]
    exact inOrder
  · simp only [socketStep, done, Traffic.gotAfter, found, shut, true_or, if_true]
    exact inOrder
  all_goals
    have stream := (inOrder.ends fd pair found).stream
      ((inOrder.ends fd pair found).unclosed present)
    simp only [socketStep, done]
    refine inOrder.leave found present readable rfl ?_ .rfl ?_
  · intro other _
    refine ⟨.rfl, rfl, ?_⟩
    simp [Traffic.gotAfter, found, empty]
  · simpa [Traffic.gotAfter, found, empty] using stream
  · intro other away
    refine ⟨.rfl, rfl, ?_⟩
    simp [Traffic.gotAfter, found, open_, pending, away]
  · simpa [Traffic.gotAfter, found, open_, pending] using stream

/-- A pair that is changed, but for its ends. -/
theorem InOrder.withEnds {fd : Int} {pair changed : FakeSocketPair}
    (found : pairAt traffic.fds fd = some pair) (ends : changed.ends = pair.ends)
    (connecting : changed.connectingFd = -1 ∨ sideOf changed.connectingFd = false)
    : InOrder { traffic with fds := setPair traffic.fds fd changed } := by
  have ok : ∀ other, EndOk traffic other pair →
      EndOk { traffic with fds := setPair traffic.fds fd changed } other changed := by
    intro other ok
    exact
      {
        unclosed := fun present => ok.unclosed (ends ▸ present)
        stream := fun open_ => by
          rw [ends]
          exact ok.stream open_
        flagged := fun open_ => by
          rw [ends, ok.flagged open_, hasNews, hasNews, peerGone, peerGone, ends]
        apart := fun absent open_ => by
          rw [ends]
          exact ok.apart (ends ▸ absent) open_
      }
  exact inOrder.change found rfl (fun _ _ _ => ⟨.rfl, rfl, rfl⟩)
    ⟨ends ▸ (inOrder.pairs fd pair found).lower, connecting⟩
    (ok fd (inOrder.ends fd pair found)) (ok _ (inOrder.peer found))

/-- To listen: no byte moves. -/
theorem InOrder.listen (fd : Int) : InOrder (socketStep traffic (.listen fd)) := by
  rcases fakeSocketListen_cases traffic.fds fd with ⟨errno, failed⟩ | ⟨pair, found, done⟩
  · rw [socketStep, failed]
    exact inOrder
  · rw [socketStep, done]
    exact inOrder.withEnds found rfl (.inl rfl)

/-- To connect: no byte moves. -/
theorem InOrder.connect (fd1 fd2 : Int) : InOrder (socketStep traffic (.connect fd1 fd2)) := by
  rcases fakeSocketConnect_cases traffic.fds fd1 fd2 with
    ⟨errno, failed⟩ | ⟨pair, found, lower, done⟩
  · rw [socketStep, failed]
    exact inOrder
  · rw [socketStep, done]
    exact inOrder.withEnds found rfl (.inr lower)

/-- The upper end of a pair gets a number that was not closed. -/
theorem InOrder.number {fd : Int} {pair : FakeSocketPair}
    (found : pairAt traffic.fds fd = some pair) (lower : sideOf fd = false)
    (open_ : peerOf fd ∉ traffic.closed)
    : InOrder
        { traffic with
          fds := setPair traffic.fds fd
            (pair.setEnd true { pair.ends true with fd := (pair.ends false).fd + 1 }) } := by
  have this := inOrder.ends fd pair found
  have peer := inOrder.peer found
  have side := sideOf_peerOf fd
  have ok := inOrder.pairs fd pair found
  have other : ∀ changed, (pair.setEnd true changed).ends false = pair.ends false :=
    pair.setEnd_other true
  rw [lower] at side
  refine inOrder.change found rfl (fun _ _ _ => ⟨.rfl, rfl, rfl⟩)
    ⟨(other _).symm ▸ ok.lower, ok.connecting⟩ ?_ ?_
  · exact
      {
        unclosed := fun present => this.unclosed (by simpa [lower, other] using present)
        stream := fun here => by
          simpa [lower, other] using this.stream here
        flagged := fun here => by
          simpa [lower, other, hasNews, peerGone, open_] using this.flagged here
        apart := fun absent here => by
          simpa [lower, other] using this.apart (by simpa [lower, other] using absent) here
      }
  · exact
      {
        unclosed := fun _ => open_
        stream := fun here => by
          simpa [side] using peer.stream here
        flagged := fun here => by
          simpa [side, other, hasNews, peerGone] using peer.flagged here
        apart := fun absent => by
          have lower' := ok.lower
          simp only [side, Bool.not_false, FakeSocketPair.setEnd_self] at absent
          omega
      }

/-- To accept, where the connecting socket is unused. -/
theorem InOrder.accept (fd : Int) (fits : endsInOrder traffic (.accept fd) = true)
    : InOrder (socketStep traffic (.accept fd)) := by
  rcases fakeSocketAccept4_cases traffic.fds fd with
    waits | ⟨errno, failed⟩ | ⟨pair, pair2, found, connecting, found2, done⟩
  · rw [socketStep, waits]
    exact inOrder
  · rw [socketStep, failed]
    exact inOrder
  · have open_ : peerOf pair.connectingFd ∉ traffic.closed := by
      simpa [endsInOrder, found, connecting] using fits
    have lower := (inOrder.pairs fd pair found).connecting.resolve_left connecting
    have accepted
      : InOrder
          { traffic with fds := setPair traffic.fds fd { pair with connectingFd := -1 } } :=
      inOrder.withEnds found rfl (.inl rfl)
    rw [socketStep, done]
    exact accepted.number found2 lower open_

/-- A new socket is a fresh pair. -/
theorem InOrder.socket : InOrder (socketStep traffic .socket) := by
  refine inOrder.extend ⟨?_, ?_, ?_, ?_, rfl⟩
  · rintro (_ | _) <;> rfl
  · rintro (_ | _) <;> rfl
  · rintro (_ | _) <;> rfl
  · exact Int.mul_comm ..

/-- A new pipe is a fresh pair with both ends. -/
theorem InOrder.pipe : InOrder (socketStep traffic .pipe) := by
  refine inOrder.extend ⟨?_, ?_, ?_, ?_, rfl⟩
  · rintro (_ | _) <;> rfl
  · rintro (_ | _) <;> rfl
  · rintro (_ | _) <;> rfl
  · exact Int.mul_comm ..

/-- A call in order keeps the invariant. -/
theorem InOrder.step (call : SocketCall) (fits : endsInOrder traffic call = true)
    : InOrder (socketStep traffic call) := by
  cases call with
  | socket => exact inOrder.socket
  | pipe => exact inOrder.pipe
  | listen fd => exact inOrder.listen fd
  | connect fd1 fd2 => exact inOrder.connect fd1 fd2
  | accept fd => exact inOrder.accept fd fits
  | read fd nbytes => exact inOrder.read fd nbytes
  | write fd data => exact inOrder.write fd data
  | shutdown fd => exact inOrder.shutdown fd fits
  | close fd => exact inOrder.close fd

end Calls

-----------------------------------------------------------------------------------------
-- The law
-----------------------------------------------------------------------------------------

end NdcOdfWeb.Net
