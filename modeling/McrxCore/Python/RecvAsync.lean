import McrxCore.Lib.Handles
import McrxCore.Python.Asyncio

/-!
# Awaited receives of the Python package

`_recv_async` of `mcrx_core/asyncio.py`, which `AsyncSubscription.recv` and
`recv_with_metadata` await.  Any number of calls share a subscription and an event loop, and
run in any order between their awaits.
-/

namespace McrxCore

namespace Python

/-- Where a call is suspended, or how it ended.  A call that waits has a future, which its
reader's `on_ready` sets. -/
inductive RecvState where
  | created
  | running
  | sleeping
  | waiting (readerFd : Fd) (done : Bool)
  | returned (packet : Packet)
  | raised (exc : PyException)
  deriving DecidableEq, Repr

/-- A call of `_recv_async`, with its variable. -/
structure RecvCall where
  selectorAvailable : Bool
  state : RecvState
  deriving DecidableEq, Repr

/-- The calls on one subscription and one loop.  A reader of the loop is a descriptor with the
call whose `on_ready` it runs. -/
structure Receivers where
  subscription : Subscription
  loopClosed : Bool
  readerSupport : ReaderSupport
  readers : List (Fd × Nat)
  /-- What `os.dup` and `os.close` did. -/
  descriptors : List (Handles.Op Fd)
  /-- The descriptors that `add_reader` of the loop refused with an exception that the call
  does not catch. -/
  refused : List Fd
  /-- The packets that `recv_nowait` returned, each with the call that took it. -/
  taken : List (Nat × Packet)
  calls : Nat → RecvCall

/-- How an await ends.  What `timesOut` raises is `asyncio.TimeoutError`, and what `raises`
raises is another exception, as that of a cancellation. -/
inductive Wake where
  | returns
  | timesOut
  | raises (exc : PyException)
  deriving DecidableEq, Repr

/-- What a call finds up to its next await: the answer of `recv_nowait`, the result of
`os.dup`, and what the selector raises. -/
structure Found where
  answer : Answer
  duplicated : Except PyException Fd
  refused : Option PyException
  deriving DecidableEq

namespace Receivers

def setState (r : Receivers) (i : Nat) (state : RecvState) : Receivers :=
  { r with calls := Function.update r.calls i { r.calls i with state := state } }

def setSelectorAvailable (r : Receivers) (i : Nat) (available : Bool) : Receivers :=
  { r with calls := Function.update r.calls i { r.calls i with selectorAvailable := available } }

/-- `loop.add_reader`, which replaces the callback of a descriptor that has one. -/
def addReader (r : Receivers) (i : Nat) (fd : Fd) (refused : Option PyException) :
    Except PyException Receivers :=
  match r.readerSupport with
  | .missing => .error .attributeError
  | .notImplemented => .error .notImplementedError
  | .supported =>
    if r.loopClosed then .error .loopClosed
    else
      match refused with
      | some exc => .error exc
      | none => .ok { r with readers := (fd, i) :: r.readers.filter (·.1 ≠ fd) }

/-- The `try` and `except` clauses of `_close_reader_fd`. -/
def removeReaderFd (r : Receivers) (fd : Fd) : Except PyException Unit × Receivers :=
  if r.loopClosed then (.ok (), r)
  else
    match r.readerSupport with
    | .missing => (.error .attributeError, r)
    -- `NotImplementedError` is ignored.
    | .notImplemented => (.ok (), r)
    | .supported => (.ok (), { r with readers := r.readers.filter (·.1 ≠ fd) })

def closeReaderFd (r : Receivers) (fd : Fd) : Except PyException Unit × Receivers :=
  let (result, r) := r.removeReaderFd fd
  (result, { r with descriptors := r.descriptors ++ [.release fd] })

/-- `os.dup`. -/
def dup (r : Receivers) (fd : Fd) : Receivers :=
  { r with descriptors := r.descriptors ++ [.acquire fd] }

/-- From `add_reader` of a duplicated descriptor to the next await. -/
def register (i : Nat) (fd : Fd) (refused : Option PyException) (r : Receivers) : Receivers :=
  match r.addReader i fd refused with
  | .ok r => r.setState i (.waiting fd false)
  | .error exc =>
    if exc.isInstance .attributeError || exc.isInstance .notImplementedError then
      match (r.setSelectorAvailable i false).closeReaderFd fd with
      | (.error exc, r) => r.setState i (.raised exc)
      | (.ok (), r) => r.setState i .sleeping
    else { r with refused := fd :: r.refused }.setState i (.raised exc)

/-- `while True`, up to the next await or the end of the call.  The system duplicates to a
descriptor that is not open. -/
def receive (i : Nat) (found : Found) (r : Receivers) : Option Receivers :=
  if r.subscription.removed then some (r.setState i (.raised .lookupError))
  else
    match found.answer with
    | .raises exc => some (r.setState i (.raised exc))
    | .packet packet =>
      some ({ r with taken := r.taken ++ [(i, packet)] }.setState i (.returned packet))
    | .none =>
      if !(r.calls i).selectorAvailable then some (r.setState i .sleeping)
      else
        match found.duplicated with
        | .error exc =>
          if exc.isInstance .attributeError || exc.isInstance .osError then
            some ((r.setSelectorAvailable i false).setState i .sleeping)
          else some (r.setState i (.raised exc))
        | .ok fd =>
          if fd ∈ Handles.held r.descriptors then none
          else some ((r.dup fd).register i fd found.refused)

/-- The end of `wait_for`: the reader is closed whether it raised or not. -/
def afterWait (i : Nat) (fd : Fd) (thrown : Option PyException) (found : Found) (r : Receivers) :
    Option Receivers :=
  match (r.setState i .running).closeReaderFd fd with
  | (.error exc, r) => some (r.setState i (.raised exc))
  | (.ok (), r) =>
    match thrown with
    | some exc => some (r.setState i (.raised exc))
    | none => receive i found r

/-- The loop resumes a call, or something throws into it. -/
def resume (i : Nat) (wake : Wake) (found : Found) (r : Receivers) : Option Receivers :=
  match (r.calls i).state, wake with
  | .created, .returns =>
    let available := decide (r.readerSupport ≠ .missing) && r.subscription.hasFileno
    receive i found (r.setSelectorAvailable i available)
  | .created, .raises exc | .sleeping, .raises exc => some (r.setState i (.raised exc))
  | .sleeping, .returns => receive i found r
  | .waiting fd true, .returns => afterWait i fd none found r
  | .waiting fd _, .timesOut => afterWait i fd none found r
  | .waiting fd _, .raises exc => afterWait i fd (some exc) found r
  | _, _ => none

/-- `on_ready` of a reader: `set_result` on the future of its call. -/
def onReady (fd : Fd) (i : Nat) (r : Receivers) : Receivers :=
  match (r.calls i).state with
  | .waiting readerFd _ => if readerFd = fd then r.setState i (.waiting fd true) else r
  | _ => r

inductive Action where
  | resume (i : Nat) (wake : Wake) (found : Found)
  | ready (fd : Fd) (i : Nat)
  | loopClose
  | remove
  deriving DecidableEq

def step : Action → Receivers → Option Receivers
  | .resume i wake found, r => r.resume i wake found
  | .ready fd i, r => if (fd, i) ∈ r.readers then some (r.onReady fd i) else none
  | .loopClose, r => some { r with loopClosed := true, readers := [] }
  | .remove, r => some { r with subscription := { r.subscription with removed := true } }

def start (subscription : Subscription) (loopClosed : Bool) (readerSupport : ReaderSupport) :
    Receivers where
  subscription := subscription
  loopClosed := loopClosed
  readerSupport := readerSupport
  readers := []
  descriptors := []
  refused := []
  taken := []
  calls := fun _ => { selectorAvailable := false, state := .created }

end Receivers

end Python

end McrxCore
