import ClearModbus.SimulatorTasks

/-!
# Starting and stopping a simulator again and again

Any number of `start`s and `stop`s of one simulator, each suspended at its awaits while other calls
go on, and each possibly cut off there: an await that raises ends the call, and nothing of what the
call has not yet done is done. Where the await has done its work before it raises, as `start_server`
can when it is cancelled, that work stays done.
-/

namespace ClearModbus.ModbusSimulator

variable {φ : Type}

inductive PendingCall where
  /-- `start` waits for `asyncio.start_server`. -/
  | starting
  /-- `stop` waits for `asyncio.gather` over these tasks. -/
  | gathering (captured : List Nat)
  /-- `stop` waits for `wait_closed` of the server. -/
  | closing
  deriving DecidableEq, Repr

/-- A simulator and the calls that are suspended in it. They tell where the calls are, so that the
phase in `simulator`, which is about a single `start` and `stop`, stays what it is. -/
structure Lifecycle (φ : Type) where
  simulator : Tasks φ
  /-- Every server that `_server` has held: does it listen? The last one is `server._server` when
  that is set. -/
  servers : List Bool
  /-- How many servers listen that no `_server` has ever held? -/
  strays : Nat
  calls : List PendingCall
  deriving DecidableEq, Repr

inductive LifecycleAction (φ : Type) where
  | addTask (taskFactory : φ)
  | factoryReturns
  | factoryRaises
  | start
  | stop
  /-- What a call waits for has come. -/
  | resume (call : Nat)
  /-- The await of a call raises: the server cannot be opened, or the call is cancelled, a `start`
  possibly after its server was opened. -/
  | cutOff (call : Nat) (opened : Bool)
  | taskEnds (task : Nat) (cancelled : Bool)
  deriving DecidableEq, Repr

def LifecycleAction.ofFactory : LifecycleAction φ → Bool
  | .addTask _ => true
  | .factoryReturns => true
  | .factoryRaises => true
  | _ => false

namespace Lifecycle

def init : Lifecycle φ := { simulator := Tasks.init, servers := [], strays := 0, calls := [] }

def suspend (state : Lifecycle φ) (call : PendingCall) : Lifecycle φ :=
  { state with calls := state.calls ++ [call] }

def stopServer (state : Lifecycle φ) : Lifecycle φ :=
  if state.simulator.hasServer then
    { state with servers := state.servers.set (state.servers.length - 1) false }.suspend .closing
  else state

def start (state : Lifecycle φ) : Lifecycle φ :=
  if state.simulator.hasServer then { state with simulator := state.simulator.startTasks }
  else state.suspend .starting

def stop (state : Lifecycle φ) : Lifecycle φ :=
  if state.simulator.tasks = [] then state.stopServer
  else
    { state with
      simulator := state.simulator.tasks.foldl (Tasks.setStatus · TaskStatus.cancel)
        state.simulator }.suspend (.gathering state.simulator.tasks)

def resumed (state : Lifecycle φ) : PendingCall → Option (Lifecycle φ)
  | .starting =>
      some { state with
        simulator := ({ state.simulator with hasServer := true } : Tasks φ).startTasks
        servers := state.servers ++ [true] }
  | .gathering captured =>
      if captured.all fun task => (state.simulator.status task).any TaskStatus.done then
        some ({ state with simulator := { state.simulator with tasks := [] } } :
          Lifecycle φ).stopServer
      else none
  | .closing => some { state with simulator := { state.simulator with hasServer := false } }

def withoutCall (state : Lifecycle φ) (call : Nat) : Lifecycle φ :=
  { state with calls := state.calls.eraseIdx call }

def perform (state : Lifecycle φ) : LifecycleAction φ → Option (Lifecycle φ)
  | .addTask taskFactory => some { state with simulator := state.simulator.addTask taskFactory }
  | .factoryReturns =>
      state.simulator.factoryReturns.map fun simulator => { state with simulator }
  | .factoryRaises => state.simulator.factoryRaises.map fun simulator => { state with simulator }
  | .start => some state.start
  | .stop => some state.stop
  | .resume call =>
      match state.calls[call]? with
      | some pending => (state.withoutCall call).resumed pending
      | none => none
  | .cutOff call opened =>
      match state.calls[call]? with
      | some .starting =>
          some { state.withoutCall call with strays := state.strays + opened.toNat }
      -- The tasks a `gather` cancels with itself have been asked to end before.
      | some _ => some (state.withoutCall call)
      | none => none
  | .taskEnds task cancelled =>
      if (state.simulator.status task).any fun status => !status.done then
        some { state with
          simulator := state.simulator.setStatus
            (fun _ => if cancelled then .cancelled else .finished) task }
      else none

def step (state : Lifecycle φ) (action : LifecycleAction φ) : Option (Lifecycle φ) :=
  if state.simulator.factoryCalls = [] ∨ action.ofFactory then state.perform action else none

end Lifecycle

end ClearModbus.ModbusSimulator
