import Mathlib.Algebra.Group.Nat.Defs
import Mathlib.Logic.Function.Basic

/-! Sockets inside of one process (`FakeSocket`). A call runs under the lock of all sockets;
one that waits goes on when it is woken.
-/

namespace NdcOdfWeb.Net

/-- One end of a pair: its elements of the arrays of `FakeSocketPair`. -/
structure FakeSocketEnd where
  fd : Int
  shutdown : Bool
  readable : Bool
  buffer : List (List UInt8)

/-- `FakeSocketPair`, with the lower end at `false` and the upper one at `true`. -/
structure FakeSocketPair where
  ends : Bool → FakeSocketEnd
  listening : Bool
  connectingFd : Int

inductive Errno where
  | EBADF
  | EISCONN
  | EIO
  | ECONNREFUSED
  | ENOTCONN
  | EPIPE
  | EAGAIN
deriving DecidableEq

/-- What a call returns, what it leaves, and whether it wakes those that wait. -/
structure Outcome (α : Type) where
  result : Except Errno α
  fds : List FakeSocketPair
  notified : Bool

open Errno

namespace FakeSocketPair

/-- A pair without ends. -/
def new : FakeSocketPair where
  ends _ := { fd := -1, shutdown := false, readable := false, buffer := [] }
  listening := false
  connectingFd := -1

def setEnd (pair : FakeSocketPair) (side : Bool) (changed : FakeSocketEnd) : FakeSocketPair :=
  { pair with ends := Function.update pair.ends side changed }

/-- The changed end. -/
@[simp]
theorem setEnd_self (pair : FakeSocketPair) (side : Bool) (changed : FakeSocketEnd)
    : (pair.setEnd side changed).ends side = changed :=
  Function.update_self ..

/-- The other end stays. -/
@[simp]
theorem setEnd_other (pair : FakeSocketPair) (side : Bool) (changed : FakeSocketEnd)
    : (pair.setEnd side changed).ends (!side) = pair.ends (!side) :=
  Function.update_of_ne (by simp) ..

/-- A change of the other end. -/
@[simp]
theorem setEnd_not (pair : FakeSocketPair) (side : Bool) (changed : FakeSocketEnd)
    : (pair.setEnd (!side) changed).ends side = pair.ends side :=
  Function.update_of_ne (by simp) ..

/-- Whether the peer of an end is closed, or not there, or shut down. -/
def hangUp (pair : FakeSocketPair) (side : Bool) : Bool :=
  decide ((pair.ends !side).fd = -1) || (pair.ends !side).shutdown

/-- An end is left with the records of `buffer` after a read. If peer is closed or shut down, we
continue to be readable.
-/
def leave (pair : FakeSocketPair) (side : Bool) (buffer : List (List UInt8)) : FakeSocketPair :=
  pair.setEnd side
    {
      pair.ends side with
      buffer
      readable :=
        if pair.hangUp side then true
        else if buffer = [] then false
        else (pair.ends side).readable
    }

end FakeSocketPair

/-- The end that a number stands for: the upper one of its pair if it is odd. -/
def sideOf (fd : Int) : Bool :=
  decide (fd % 2 = 1)

/-- The number of the other end. -/
def peerOf (fd : Int) : Int :=
  if sideOf fd then fd - 1 else fd + 1

/-- The pair of a number, `none` out of range. -/
def pairAt (fds : List FakeSocketPair) (fd : Int) : Option FakeSocketPair :=
  if fd < 0 then none else fds[(fd / 2).toNat]?

def setPair (fds : List FakeSocketPair) (fd : Int) (pair : FakeSocketPair)
    : List FakeSocketPair :=
  fds.set (fd / 2).toNat pair

/-- A call fails and leaves everything as it is. -/
def failWith {α : Type} (fds : List FakeSocketPair) (errno : Errno) : Outcome α :=
  ⟨.error errno, fds, false⟩

/-- `fakeSocketSocket`: always a new pair. -/
def fakeSocketSocket (fds : List FakeSocketPair) : Outcome Int :=
  let fd : Int := fds.length * 2
  let pair := FakeSocketPair.new
  ⟨.ok fd, fds ++ [pair.setEnd false { pair.ends false with fd }], false⟩

/-- `fakeSocketPipe2`. -/
def fakeSocketPipe2 (fds : List FakeSocketPair) : Outcome (Int × Int) :=
  let fd : Int := fds.length * 2
  let pair := FakeSocketPair.new.setEnd false { FakeSocketPair.new.ends false with fd }
  ⟨.ok (fd, fd + 1), fds ++ [pair.setEnd true { pair.ends true with fd := fd + 1 }], false⟩

/-- `fakeSocketListen`. -/
def fakeSocketListen (fds : List FakeSocketPair) (fd : Int) : Outcome Unit :=
  match pairAt fds fd with
  | none => failWith fds .EBADF
  | some pair =>
      if (pair.ends (sideOf fd)).fd = -1 then failWith fds .EBADF
      else if sideOf fd ∨ (pair.ends true).fd ≠ -1 then failWith fds .EISCONN
      else if pair.listening then failWith fds EIO
      else
        ⟨.ok (), setPair fds fd { pair with listening := true, connectingFd := -1 }, false⟩

/-- `fakeSocketConnect`, up to where it waits for the other end of `fd1`. -/
def fakeSocketConnect (fds : List FakeSocketPair) (fd1 fd2 : Int) : Outcome Unit :=
  match pairAt fds fd1, pairAt fds fd2 with
  | some _, some pair2 =>
      if fd1 / 2 = fd2 / 2 then failWith fds .EBADF
      else if sideOf fd1 ∨ sideOf fd2 then failWith fds .EISCONN
      else if !pair2.listening ∨ pair2.connectingFd ≠ -1 then failWith fds .ECONNREFUSED
      else ⟨.ok (), setPair fds fd2 { pair2 with connectingFd := fd1 }, true⟩
  | _, _ => failWith fds .EBADF

/-- `fakeSocketAccept4`, `none` while it waits for a connection. -/
def fakeSocketAccept4 (fds : List FakeSocketPair) (fd : Int) : Option (Outcome Int) :=
  match pairAt fds fd with
  | none => some (failWith fds .EBADF)
  | some pair =>
      if sideOf fd then some (failWith fds .EISCONN)
      else if !pair.listening then some (failWith fds EIO)
      else if pair.connectingFd = -1 then none
      else
        let accepted := setPair fds fd { pair with connectingFd := -1 }
        (pairAt accepted pair.connectingFd).map
          (fun pair2 =>
            let upper := (pair2.ends false).fd + 1
            ⟨.ok upper,
              setPair accepted pair.connectingFd
                (pair2.setEnd true { pair2.ends true with fd := upper }),
              true⟩)

/-- `fakeSocketRead`. These sockets are record-oriented. It won't work to read less than the
whole record in turn to be read.
-/
def fakeSocketRead (fds : List FakeSocketPair) (fd : Int) (nbytes : Nat)
    : Outcome (List UInt8) :=
  match pairAt fds fd with
  | none => failWith fds .EBADF
  | some pair =>
      let this := pair.ends (sideOf fd)
      let left (buffer : List (List UInt8)) : List FakeSocketPair :=
        setPair fds fd (pair.leave (sideOf fd) buffer)
      if this.fd = -1 then failWith fds .EBADF
      else if this.shutdown then ⟨.ok [], fds, false⟩
      else if !this.readable then failWith fds .EAGAIN
      else
        match this.buffer with
        | [] => ⟨.ok [], left [], true⟩
        | record :: rest =>
            if nbytes < record.length % 2 ^ 32 then failWith fds .EAGAIN
            else ⟨.ok record, left rest, true⟩

/-- `fakeSocketWrite`. -/
def fakeSocketWrite (fds : List FakeSocketPair) (fd : Int) (data : List UInt8) : Outcome Nat :=
  match pairAt fds fd with
  | none => failWith fds .EBADF
  | some pair =>
      let peer := pair.ends !sideOf fd
      if (pair.ends (sideOf fd)).fd = -1 then failWith fds .EBADF
      else if (pair.ends (sideOf fd)).shutdown then failWith fds .EPIPE
      else
        ⟨.ok data.length,
          setPair fds fd
            (pair.setEnd (!sideOf fd)
              { peer with buffer := peer.buffer ++ [data], readable := true }),
          true⟩

/-- `fakeSocketShutdown`. -/
def fakeSocketShutdown (fds : List FakeSocketPair) (fd : Int) : Outcome Unit :=
  match pairAt fds fd with
  | none => failWith fds .EBADF
  | some pair =>
      let this := pair.ends (sideOf fd)
      if this.fd = -1 then failWith fds .EBADF
      else if (pair.ends !sideOf fd).fd = -1 then failWith fds .ENOTCONN
      else
        ⟨.ok (),
          setPair fds fd (pair.setEnd (sideOf fd) { this with shutdown := true, readable := true }),
          false⟩

/-- `fakeSocketClose`. -/
def fakeSocketClose (fds : List FakeSocketPair) (fd : Int) : Outcome Unit :=
  match pairAt fds fd with
  | none => failWith fds .EBADF
  | some pair =>
      let this := pair.ends (sideOf fd)
      let peer := pair.ends !sideOf fd
      if this.fd = -1 then failWith fds .EBADF
      else
        ⟨.ok (),
          setPair fds fd
            ((pair.setEnd (sideOf fd) { this with fd := -1, buffer := [] }).setEnd (!sideOf fd)
              { peer with readable := true }),
          true⟩

end NdcOdfWeb.Net
