import McrxCore.Lib.Transition

/-!
# The background worker of the C interface

`mcrx_context_start`, `mcrx_context_stop`, `mcrx_context_free` and `worker_loop` of
`mcrx-core-ffi` as a step relation.  Each load, store or compare-exchange of
`active_worker_generation`, each lock and unlock, each take of the handle, each spawn,
join and notification is one step of one thread; threads interleave at will.  A worker
is named by its generation, and while it is in its packet callback it may make calls
of its own.
-/

namespace McrxCore.Ffi

/-- The generations are `u64` values. -/
abbrev Generation := Nat

/-- A caller of the interface: one of the host's threads, or the packet callback of a
worker. -/
inductive Thread where
  | external (n : Nat)
  | worker (generation : Generation)
  deriving DecidableEq, Repr

inductive Call where
  | start
  | stop
  | free
  deriving DecidableEq, Repr

/-- The entry points that run `stop_worker`. -/
inductive StopCall where
  | stop
  | free
  deriving DecidableEq, Repr

/-- The next step of `stop_worker` and of what follows it. -/
inductive StopPoint where
  | store
  | notify
  | lock
  | take
  | unlock (handle : Option Generation)
  | join (handle : Generation)
  | clearError
  deriving DecidableEq, Repr

inductive Status where
  | ok
  | alreadyRunning
  deriving DecidableEq, Repr

/-- The next step of `mcrx_context_start`. -/
inductive StartPoint where
  | lock
  | take
  | isFinished (handle : Generation)
  | fetchUpdate
  | store (generation : Generation)
  | spawn (generation : Generation)
  | clearError
  | unlock (status : Status)
  deriving DecidableEq, Repr

inductive Control where
  | idle
  | dropHandle
  | stop (call : StopCall) (point : StopPoint)
  | start (point : StartPoint)
  | returned (call : Call) (status : Status)
  deriving DecidableEq, Repr

/-- What a worker does next: in `worker_loop`, in `wait_for_worker_wakeup` (`wait`,
`parked`), or in `stop_worker_generation_with_error` (`error`). -/
inductive WorkerPoint where
  | head
  | receive
  | callback
  | waitLock
  | waitLoad
  | waitPredicate
  | waitPark
  | parked
  | waitRelock
  | waitUnlock
  | errorExchange (message : String)
  | errorRecord (message : String)
  | errorNotify
  | exited
  deriving DecidableEq, Repr

/-- `ContextState`, and where each caller and each worker stands. -/
structure State where
  activeWorkerGeneration : Generation
  nextWorkerGeneration : Generation
  handleAlive : Bool
  lastError : Option String
  worker : Option Generation
  workerLock : Option Thread
  idleWait : Option Generation
  controls : Thread → Control
  workers : Generation → Option WorkerPoint

/-- `McrxContext::new`. -/
def State.new : State :=
  { activeWorkerGeneration := 0
    nextWorkerGeneration := 1
    handleAlive := true
    lastError := none
    worker := none
    workerLock := none
    idleWait := none
    controls := fun _ => .idle
    workers := fun _ => none }

namespace State

/-- Thread `t` goes on to `control`. -/
def goto (s : State) (t : Thread) (control : Control) : State :=
  { s with controls := Function.update s.controls t control }

/-- Worker `g` goes on to `point`. -/
def move (s : State) (g : Generation) (point : WorkerPoint) : State :=
  { s with workers := Function.update s.workers g (some point) }

/-- `wake_worker.notify_all`: every parked worker leaves the wait. -/
def notifyAll (s : State) : State :=
  { s with workers := fun g =>
      if s.workers g = some .parked then some .waitRelock else s.workers g }

end State

/-! ## Calls -/

def Call.entry : Call → Control
  | .start => .start .lock
  | .stop => .stop .stop .store
  | .free => .dropHandle

/-- A host thread may call at any time, a worker's thread from its callback. -/
def State.mayCall (s : State) : Thread → Bool
  | .external _ => true
  | .worker g => s.workers g = some .callback

def beginCall (t : Thread) (call : Call) (s : State) : Option State :=
  if s.controls t = .idle ∧ s.mayCall t = true then some (s.goto t call.entry) else none

/-- What follows a successful `stop_worker`. -/
def StopCall.finish : StopCall → Control
  | .stop => .stop .stop .clearError
  | .free => .returned .free .ok

/-- The check of the handle against the current thread. -/
def afterUnlock (t : Thread) (call : StopCall) : Option Generation → Control
  | none => call.finish
  | some g => if t = .worker g then call.finish else .stop call (.join g)

def stopStep (t : Thread) (call : StopCall) (s : State) : StopPoint → Option State
  | .store => some ({ s with activeWorkerGeneration := 0 }.goto t (.stop call .notify))
  | .notify => some (s.notifyAll.goto t (.stop call .lock))
  | .lock =>
    if s.workerLock = none then
      some ({ s with workerLock := some t }.goto t (.stop call .take))
    else none
  | .take => some ({ s with worker := none }.goto t (.stop call (.unlock s.worker)))
  | .unlock handle => some ({ s with workerLock := none }.goto t (afterUnlock t call handle))
  | .join handle =>
    if s.workers handle = some .exited then some (s.goto t call.finish) else none
  | .clearError => some ({ s with lastError := none }.goto t (.returned .stop .ok))

/-- The steps of `mcrx_context_start`, but for the `fetch_update`. -/
def startStep (t : Thread) (s : State) : StartPoint → Option State
  | .lock =>
    if s.workerLock = none then some ({ s with workerLock := some t }.goto t (.start .take))
    else none
  | .take =>
    match s.worker with
    | none => some (s.goto t (.start .fetchUpdate))
    | some handle => some ({ s with worker := none }.goto t (.start (.isFinished handle)))
  | .isFinished handle =>
    if s.workers handle = some .exited then some (s.goto t (.start .fetchUpdate))
    else some ({ s with worker := some handle }.goto t (.start (.unlock .alreadyRunning)))
  | .fetchUpdate => none
  | .store generation =>
    some ({ s with activeWorkerGeneration := generation }.goto t (.start (.spawn generation)))
  | .spawn generation =>
    some (({ s with worker := some generation }.move generation .head).goto t
      (.start .clearError))
  | .clearError => some ({ s with lastError := none }.goto t (.start (.unlock .ok)))
  | .unlock status => some ({ s with workerLock := none }.goto t (.returned .start status))

def callStep (t : Thread) (s : State) : Option State :=
  match s.controls t with
  | .idle => none
  | .dropHandle => some ({ s with handleAlive := false }.goto t (.stop .free .store))
  | .stop call point => stopStep t call s point
  | .start point => startStep t s point
  | .returned _ _ => some (s.goto t .idle)

/-- The `fetch_update` of `next_worker_generation`. -/
def fetchUpdate (t : Thread) (s : State) : Option State :=
  if s.controls t = .start .fetchUpdate then
    some ({ s with
        nextWorkerGeneration := max ((s.nextWorkerGeneration + 1) % 2 ^ 64) 1 }.goto t
      (.start (.store s.nextWorkerGeneration)))
  else none

/-! ## Workers -/

/-- What a step of a worker meets: the result of `receive_one`, a failed lock, or the
end of the idle interval. -/
inductive Input where
  | go
  | packet
  | empty
  | failed (message : String)
  | elapsed
  deriving DecidableEq, Repr

/-- One step of worker `g`.  A parked worker may wake at any time, notified or not. -/
def workStep (g : Generation) (input : Input) (s : State) : Option State :=
  match s.workers g, input with
  | some .head, .go =>
    some (s.move g (if s.activeWorkerGeneration = g then .receive else .exited))
  | some .receive, .packet => some (s.move g .callback)
  | some .receive, .empty => some (s.move g .waitLock)
  | some .receive, .failed message => some (s.move g (.errorExchange message))
  | some .callback, .go =>
    if s.controls (.worker g) = .idle then some (s.move g .head) else none
  | some .waitLock, .go =>
    if s.idleWait = none then some ({ s with idleWait := some g }.move g .waitLoad) else none
  | some .waitLock, .failed message => some (s.move g (.errorExchange message))
  | some .waitLoad, .go =>
    some (s.move g (if s.activeWorkerGeneration = g then .waitPredicate else .waitUnlock))
  | some .waitPredicate, .go =>
    some (s.move g (if s.activeWorkerGeneration = g then .waitPark else .waitUnlock))
  | some .waitPredicate, .elapsed => some (s.move g .waitUnlock)
  | some .waitPark, .go => some ({ s with idleWait := none }.move g .parked)
  | some .parked, .go => some (s.move g .waitRelock)
  | some .parked, .elapsed => some (s.move g .waitRelock)
  | some .waitRelock, .go =>
    if s.idleWait = none then some ({ s with idleWait := some g }.move g .waitPredicate)
    else none
  | some .waitRelock, .failed message => some (s.move g (.errorExchange message))
  | some .waitUnlock, .go => some ({ s with idleWait := none }.move g .head)
  | some (.errorExchange message), .go =>
    if s.activeWorkerGeneration = g then
      some ({ s with activeWorkerGeneration := 0 }.move g (.errorRecord message))
    else some (s.move g .exited)
  | some (.errorRecord message), .go =>
    some ({ s with lastError := some message }.move g .errorNotify)
  | some .errorNotify, .go => some (s.notifyAll.move g .exited)
  | _, _ => none

/-! ## Runs -/

inductive Action where
  | begin (t : Thread) (call : Call)
  | proceed (t : Thread)
  | fetchUpdate (t : Thread)
  | work (g : Generation) (input : Input)
  deriving DecidableEq, Repr

def step : Action → State → Option State
  | .begin t call, s => beginCall t call s
  | .proceed t, s => callStep t s
  | .fetchUpdate t, s => McrxCore.Ffi.fetchUpdate t s
  | .work g input, s => workStep g input s

def Action.starts : Action → Nat
  | .fetchUpdate _ => 1
  | _ => 0

def starts (actions : List Action) : Nat := (actions.map Action.starts).sum

end McrxCore.Ffi
