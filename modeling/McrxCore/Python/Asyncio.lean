import McrxCore.Packet
import McrxCore.Lib.Transition

/-!
# Callback readers of the Python package

`add_reader` of `mcrx_core/asyncio.py`, over the event loop that calls it back.  A reader is
the handle with the variables that its closures share.  What Python code outside the module
does when it is called (the packet callback, the loop's exception handler) is an input.
-/

namespace McrxCore

namespace Python

/-! ## Exceptions -/

/-- The classes that an `except` clause names. -/
inductive ExceptionClass where
  | lookupError
  | attributeError
  | osError
  | notImplementedError
  | runtimeError
  | valueError
  | exception
  | systemExit
  | keyboardInterrupt
  deriving DecidableEq, Repr

/-- An exception by the classes that it is an instance of, and its text. -/
structure PyException where
  classes : List ExceptionClass
  text : String
  deriving DecidableEq, Repr

namespace PyException

def isInstance (exc : PyException) (cls : ExceptionClass) : Bool := decide (cls ∈ exc.classes)

/-- `except (SystemExit, KeyboardInterrupt): raise` in the event loop. -/
def leavesLoop (exc : PyException) : Bool :=
  exc.isInstance .systemExit || exc.isInstance .keyboardInterrupt

def lookupError : PyException :=
  { classes := [.lookupError, .exception], text := "mcrx_core subscription not found" }

def attributeError : PyException := { classes := [.attributeError, .exception], text := "" }

def notImplementedError : PyException :=
  { classes := [.notImplementedError, .runtimeError, .exception], text := "" }

def loopClosed : PyException :=
  { classes := [.runtimeError, .exception], text := "Event loop is closed" }

def foreignFuture : PyException :=
  { classes := [.valueError, .exception]
    text := "The future belongs to a different loop than the one specified as the loop argument" }

end PyException

/-! ## The event loop -/

inductive TimerCallback where
  | checkSubscriptionLifetime
  | poll
  deriving DecidableEq, Repr

structure Timer where
  id : Nat
  callback : TimerCallback
  deriving DecidableEq, Repr

/-- `add_reader` on a loop: there is no such attribute, or it raises `NotImplementedError`. -/
inductive ReaderSupport where
  | missing
  | notImplemented
  | supported
  deriving DecidableEq, Repr

/-- The timers are those that are armed. -/
structure EventLoop where
  closed : Bool
  readerSupport : ReaderSupport
  readers : List Fd
  timers : List Timer
  nextTimer : Nat
  deriving DecidableEq, Repr

namespace EventLoop

/-- `loop.add_reader`, with what the selector raises for the descriptor. -/
def addReader (loop : EventLoop) (fd : Fd) (refused : Option PyException) :
    Except PyException EventLoop :=
  match loop.readerSupport with
  | .missing => .error .attributeError
  | .notImplemented => .error .notImplementedError
  | .supported =>
    if loop.closed then .error .loopClosed
    else
      match refused with
      | some exc => .error exc
      | none => .ok { loop with readers := fd :: loop.readers }

def removeReader (loop : EventLoop) (fd : Fd) : Except PyException EventLoop :=
  match loop.readerSupport with
  | .missing => .error .attributeError
  | .notImplemented => .error .notImplementedError
  | .supported =>
    if loop.closed then .ok loop
    else .ok { loop with readers := loop.readers.filter (· ≠ fd) }

def callLater (loop : EventLoop) (callback : TimerCallback) : EventLoop :=
  { loop with
    timers := { id := loop.nextTimer, callback := callback } :: loop.timers
    nextTimer := loop.nextTimer + 1 }

def cancel (loop : EventLoop) (id : Nat) : EventLoop :=
  { loop with timers := loop.timers.filter (·.id ≠ id) }

/-- `loop.close()`: what is scheduled or monitored is dropped. -/
def close (loop : EventLoop) : EventLoop :=
  { loop with closed := true, readers := [], timers := [] }

end EventLoop

/-! ## Readers -/

structure Subscription where
  removed : Bool
  hasFileno : Bool
  stateCallable : Bool
  deriving DecidableEq, Repr

/-- Who calls `ReaderHandle.close()`. -/
inductive Closer where
  | reader
  | user
  deriving DecidableEq, Repr

inductive Event where
  | packetTaken (packet : Packet)
  | callbackStarted (packet : Packet)
  | callbackRaised (exc : PyException)
  | subscriptionRaised (exc : PyException)
  | reported (message : String) (exc : PyException)
  | closeEntered (closer : Closer)
  deriving DecidableEq, Repr

inductive Registration where
  | selector (fd : Fd)
  | polling
  deriving DecidableEq, Repr

/-- A `ReaderHandle` with the variable of its closures: `lifetime_timer` of a selector reader,
`timer` of a polling one. -/
structure Reader where
  registration : Registration
  closed : Bool
  timer : Option Nat
  journal : List Event
  deriving DecidableEq, Repr

/-- The duplicated descriptors, and the calls of `os.close`. -/
structure Descriptors where
  duplicated : List Fd
  closes : List Fd
  deriving DecidableEq, Repr

structure World where
  subscription : Subscription
  loop : EventLoop
  descriptors : Descriptors
  reader : Reader
  deriving DecidableEq, Repr

abbrev Run := Except PyException Unit × World

namespace World

def record (w : World) (event : Event) : World :=
  { w with reader := { w.reader with journal := w.reader.journal ++ [event] } }

def remove (w : World) : World := { w with subscription := { w.subscription with removed := true } }

/-- `os.close`: an `OSError` is ignored. -/
def osClose (w : World) (fd : Fd) : World :=
  { w with descriptors := { w.descriptors with closes := w.descriptors.closes ++ [fd] } }

def setTimer (w : World) (timer : Option Nat) : World :=
  { w with reader := { w.reader with timer := timer } }

/-- `timer = loop.call_later(.., callback)`. -/
def callLater (w : World) (callback : TimerCallback) : World :=
  { w with loop := w.loop.callLater callback }.setTimer (some w.loop.nextTimer)

/-- `if timer is not None: timer.cancel()`. -/
def cancelTimer (w : World) : World :=
  match w.reader.timer with
  | some id => { w with loop := w.loop.cancel id }
  | none => w

end World

/-- The `try` and `except` clauses of `_close_reader_fd`. -/
def removeReaderFd (fd : Fd) (w : World) : Run :=
  if w.loop.closed then (.ok (), w)
  else
    match w.loop.removeReader fd with
    | .ok loop => (.ok (), { w with loop := loop })
    | .error exc =>
      if exc.isInstance .notImplementedError then (.ok (), w)
      else if exc.isInstance .runtimeError || exc.isInstance .valueError then
        if !w.loop.closed then (.error exc, w) else (.ok (), w)
      else (.error exc, w)

def closeReaderFd (fd : Fd) (w : World) : Run :=
  let (result, w) := removeReaderFd fd w
  (result, w.osClose fd)

/-- `close_reader` or `close_timer`. -/
def closeCb (w : World) : Run :=
  match w.reader.registration with
  | .selector fd =>
    match closeReaderFd fd w with
    | (.error exc, w) => (.error exc, w)
    | (.ok (), w) => (.ok (), w.cancelTimer)
  | .polling => (.ok (), w.cancelTimer)

/-- `ReaderHandle.close`. -/
def close (closer : Closer) (w : World) : Run :=
  let w := w.record (.closeEntered closer)
  if w.reader.closed then (.ok (), w)
  else closeCb { w with reader := { w.reader with closed := true } }

/-! ## Code outside the module -/

/-- What outside code does to the reader while it runs.  It may catch what `close` raises. -/
inductive Effect where
  | close
  | remove
  deriving DecidableEq, Repr

def runEffects : List Effect → World → World
  | [], w => w
  | .close :: effects, w => runEffects effects (close .user w).2
  | .remove :: effects, w => runEffects effects w.remove

inductive Outcome where
  | returns
  | returnsAwaitable
  | returnsForeignFuture
  | raises (exc : PyException)
  deriving DecidableEq, Repr

structure CallbackRun where
  effects : List Effect
  outcome : Outcome
  deriving DecidableEq, Repr

structure HandlerRun where
  effects : List Effect
  raised : Option PyException
  deriving DecidableEq, Repr

/-- `loop.call_exception_handler`: what the handler raises is logged, or leaves the loop. -/
def callExceptionHandler (message : String) (exc : PyException) (handler : HandlerRun)
    (w : World) : Run :=
  let w := runEffects handler.effects (w.record (.reported message exc))
  match handler.raised with
  | some raised => if raised.leavesLoop then (.error raised, w) else (.ok (), w)
  | none => (.ok (), w)

/-- What the loop does with what a callback of its own raises. -/
def handleRun (handler : HandlerRun) : Run → World
  | (.ok (), w) => w
  | (.error exc, w) =>
    if exc.leavesLoop then w
    -- The message goes on with the representation of the callback.
    else (callExceptionHandler "Exception in callback" exc handler w).2

/-- What a call of the subscription finds, unless the subscription is removed. -/
inductive Answer where
  | packet (packet : Packet)
  | none
  | raises (exc : PyException)
  deriving DecidableEq, Repr

def raiseSubscription {α : Type} (exc : PyException) (w : World) : Except PyException α × World :=
  (.error exc, w.record (.subscriptionRaised exc))

def recvNowait (answer : Answer) (w : World) : Except PyException (Option Packet) × World :=
  if w.subscription.removed then raiseSubscription .lookupError w
  else
    match answer with
    | .packet packet => (.ok (some packet), w.record (.packetTaken packet))
    | .none => (.ok Option.none, w)
    | .raises exc => raiseSubscription exc w

/-- `state()`, with what it raises. -/
def subscriptionState (raised : Option PyException) (w : World) : Run :=
  if w.subscription.removed then raiseSubscription .lookupError w
  else
    match raised with
    | some exc => raiseSubscription exc w
    | none => (.ok (), w)

/-! ## The loops of the readers -/

def scheduleCallbackResult (packet : Packet) (callback : CallbackRun) (w : World) : Run :=
  let w := runEffects callback.effects (w.record (.callbackStarted packet))
  match callback.outcome with
  | .returns | .returnsAwaitable => (.ok (), w)
  | .returnsForeignFuture => (.error .foreignFuture, w)
  | .raises exc => (.error exc, w.record (.callbackRaised exc))

/-- A turn of the loop over packets: the answer, and the callback's run if there is a packet. -/
structure Turn where
  answer : Answer
  callback : CallbackRun
  deriving DecidableEq, Repr

/-- `while not handle.closed`, up to the turn that finds no packet, which the turns given
leave out. -/
def drain (onNone : World → World) : List Turn → World → Run
  | [], w =>
    if w.reader.closed then (.ok (), w)
    else
      match recvNowait .none w with
      | (.error exc, w) => (.error exc, w)
      | (.ok _, w) => (.ok (), onNone w)
  | turn :: turns, w =>
    if w.reader.closed then (.ok (), w)
    else
      match recvNowait turn.answer w with
      | (.error exc, w) => (.error exc, w)
      | (.ok none, w) => (.ok (), onNone w)
      | (.ok (some packet), w) =>
        match scheduleCallbackResult packet turn.callback w with
        | (.error exc, w) => (.error exc, w)
        | (.ok (), w) => drain onNone turns w

/-- The `except` clauses of the reader's callbacks. -/
def exceptClauses (message : String) (handler : HandlerRun) : Run → Run
  | (.ok (), w) => (.ok (), w)
  | (.error exc, w) =>
    if exc.isInstance .lookupError then close .reader w
    else if exc.isInstance .exception then
      match callExceptionHandler message exc handler w with
      | (.error raised, w) => (.error raised, w)
      | (.ok (), w) => close .reader w
    else (.error exc, w)

def callbackFailed : String := "mcrx_core subscription callback failed"

def lifetimeCheckFailed : String := "mcrx_core subscription lifetime check failed"

/-! ## Selector readers -/

def scheduleLifetimeCheck (w : World) : World :=
  if !w.reader.closed && !w.loop.closed && w.subscription.stateCallable then
    w.callLater .checkSubscriptionLifetime
  else w

def checkSubscriptionLifetime (raised : Option PyException) (handler : HandlerRun) (w : World) :
    Run :=
  let w := w.setTimer none
  if w.reader.closed then (.ok (), w)
  else if !w.subscription.stateCallable then (.ok (), w)
  else
    match subscriptionState raised w with
    | (.ok (), w) => (.ok (), scheduleLifetimeCheck w)
    | (.error exc, w) => exceptClauses lifetimeCheckFailed handler (.error exc, w)

def onReady (turns : List Turn) (handler : HandlerRun) (w : World) : Run :=
  exceptClauses callbackFailed handler (drain id turns w)

/-! ## Polling readers -/

def schedulePoll (w : World) : World :=
  if !w.reader.closed && !w.loop.closed then w.callLater .poll else w

def poll (turns : List Turn) (handler : HandlerRun) (w : World) : Run :=
  let w := w.setTimer none
  if w.reader.closed then (.ok (), w)
  else exceptClauses callbackFailed handler (drain schedulePoll turns w)

/-! ## Starting a reader -/

def newReader (registration : Registration) : Reader :=
  { registration := registration, closed := false, timer := none, journal := [] }

def startPollReader (w : World) : World := schedulePoll { w with reader := newReader .polling }

/-- What `add_reader` finds: the subscription, the loop, the result of `os.dup` and what the
selector raises. -/
structure Start where
  subscription : Subscription
  loopClosed : Bool
  readerSupport : ReaderSupport
  duplicated : Except PyException Fd
  refused : Option PyException
  deriving DecidableEq

namespace Start

/-- The world before the reader starts, with no descriptor duplicated and no timer armed. -/
def world (start : Start) (registration : Registration) : World :=
  { subscription := start.subscription
    loop :=
      { closed := start.loopClosed
        readerSupport := start.readerSupport
        readers := []
        timers := []
        nextTimer := 0 }
    descriptors := { duplicated := [], closes := [] }
    reader := newReader registration }

end Start

/-- `_duplicate_reader_fd`. -/
def duplicateReaderFd (start : Start) : Except PyException (Option Fd) :=
  if start.subscription.removed then .error .lookupError
  else
    match start.duplicated with
    | .ok fd => .ok (some fd)
    | .error exc =>
      if exc.isInstance .attributeError || exc.isInstance .osError then .ok none else .error exc

/-- A selector reader on the descriptor, or a polling one where the loop has no
`add_reader`. -/
def addSelectorReader (start : Start) (fd : Fd) : Except PyException World :=
  let w := start.world (.selector fd)
  let w := { w with descriptors := { w.descriptors with duplicated := [fd] } }
  match w.loop.addReader fd start.refused with
  | .ok loop => .ok (scheduleLifetimeCheck { w with loop := loop })
  | .error exc =>
    if exc.isInstance .attributeError || exc.isInstance .notImplementedError then
      match close .reader w with
      | (.error exc, _) => .error exc
      | (.ok (), w) => .ok (startPollReader w)
    else .error exc

/-- `add_reader`. -/
def addReader (start : Start) : Except PyException World :=
  if start.readerSupport ≠ .missing ∧ start.subscription.hasFileno then
    match duplicateReaderFd start with
    | .error exc => .error exc
    | .ok none => .ok (startPollReader (start.world .polling))
    | .ok (some fd) => addSelectorReader start fd
  else .ok (startPollReader (start.world .polling))

/-! ## Steps -/

inductive Action where
  | readable (turns : List Turn) (handler outer : HandlerRun)
  | pollTimer (id : Nat) (turns : List Turn) (handler outer : HandlerRun)
  | lifetimeTimer (id : Nat) (raised : Option PyException) (handler outer : HandlerRun)
  | loopClose
  | close
  | remove
  deriving DecidableEq, Repr

/-- The loop calls back for a descriptor that it monitors. -/
def readable (turns : List Turn) (handler outer : HandlerRun) (w : World) : Option World :=
  match w.reader.registration with
  | .selector fd =>
    if !w.loop.closed ∧ fd ∈ w.loop.readers then some (handleRun outer (onReady turns handler w))
    else none
  | .polling => none

def fire (id : Nat) (callback : TimerCallback) (body : World → World) (w : World) : Option World :=
  if !w.loop.closed ∧ { id := id, callback := callback } ∈ w.loop.timers then
    some (body { w with loop := w.loop.cancel id })
  else none

def step : Action → World → Option World
  | .readable turns handler outer, w => readable turns handler outer w
  | .pollTimer id turns handler outer, w =>
    fire id .poll (fun w => handleRun outer (poll turns handler w)) w
  | .lifetimeTimer id raised handler outer, w =>
    fire id .checkSubscriptionLifetime
      (fun w => handleRun outer (checkSubscriptionLifetime raised handler w)) w
  | .loopClose, w => some { w with loop := w.loop.close }
  | .close, w => some (close .user w).2
  | .remove, w => some w.remove

def Action.IsCallback : Action → Prop
  | .readable .. | .pollTimer .. | .lifetimeTimer .. => True
  | .loopClose | .close | .remove => False

end Python

end McrxCore
