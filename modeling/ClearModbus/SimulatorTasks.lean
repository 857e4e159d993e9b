import ClearModbus.Lib.Transition

/-!
# The background tasks of the simulator

`start`, `stop` and `add_task`, cut at their awaits and at the calls of task factories: what one
coroutine does between two of these is one action. `add_task` can run whenever another coroutine is
suspended, and a factory can call it too; while factories are called, nothing but their code runs.
-/

namespace ClearModbus.ModbusSimulator

variable {φ : Type}

/-- `cancel` only asks: the task is cancelled when it ends that way. -/
inductive TaskStatus where
  | running
  | cancelRequested
  | cancelled
  | finished
  deriving DecidableEq, Repr

def TaskStatus.done : TaskStatus → Bool
  | .running => false
  | .cancelRequested => false
  | .cancelled => true
  | .finished => true

def TaskStatus.cancel : TaskStatus → TaskStatus
  | .running => .cancelRequested
  | status => status

inductive Phase where
  | new
  /-- `start` waits for `asyncio.start_server`. -/
  | starting
  | running
  /-- `stop` waits for `asyncio.gather` over these tasks. -/
  | gathering (captured : List Nat)
  /-- `stop` waits for `wait_closed` of the server. -/
  | closing
  | stopped
  deriving DecidableEq, Repr

/-- A call of a factory that has not returned yet. -/
inductive FactoryCall (φ : Type) where
  | adding (taskFactory : φ)
  /-- `_start_tasks` is at this position of the list. -/
  | starting (position : Nat) (taskFactory : φ)
  deriving DecidableEq, Repr

def FactoryCall.taskFactory : FactoryCall φ → φ
  | .adding taskFactory => taskFactory
  | .starting _ taskFactory => taskFactory

def FactoryCall.ofStart : FactoryCall φ → Bool
  | .adding _ => false
  | .starting _ _ => true

/-- The fields the tasks depend on, and every task created: task `n` is the `n`-th one. -/
structure Tasks (φ : Type) where
  taskFactories : List φ
  tasks : List Nat
  /-- Is `server._server` set? -/
  hasServer : Bool
  created : List (φ × TaskStatus)
  /-- The factories being called, innermost first. -/
  factoryCalls : List (FactoryCall φ)
  phase : Phase
  deriving DecidableEq, Repr

namespace Tasks

def init : Tasks φ :=
  { taskFactories := [], tasks := [], hasServer := false, created := [], factoryCalls := [],
    phase := .new }

def status (state : Tasks φ) (task : Nat) : Option TaskStatus :=
  (state.created[task]?).map Prod.snd

def createTask (state : Tasks φ) (taskFactory : φ) : Tasks φ :=
  { state with
    tasks := state.tasks ++ [state.created.length]
    created := state.created ++ [(taskFactory, .running)] }

def callFactory (state : Tasks φ) (call : FactoryCall φ) : Tasks φ :=
  { state with factoryCalls := call :: state.factoryCalls }

def addTask (state : Tasks φ) (taskFactory : φ) : Tasks φ :=
  let registered := { state with taskFactories := state.taskFactories ++ [taskFactory] }
  if registered.hasServer then registered.callFactory (.adding taskFactory) else registered

/-- The loop of `_start_tasks`, which goes over the list as it is when it gets there. -/
def startTasksFrom (state : Tasks φ) (position : Nat) : Tasks φ :=
  match state.taskFactories[position]? with
  | some taskFactory => state.callFactory (.starting position taskFactory)
  | none => state

def startTasks (state : Tasks φ) : Tasks φ :=
  if state.tasks = [] then state.startTasksFrom 0 else state

def factoryReturns (state : Tasks φ) : Option (Tasks φ) :=
  match state.factoryCalls with
  | [] => none
  | .adding taskFactory :: factoryCalls =>
      some (({ state with factoryCalls } : Tasks φ).createTask taskFactory)
  | .starting position taskFactory :: factoryCalls =>
      some ((({ state with factoryCalls } : Tasks φ).createTask taskFactory).startTasksFrom
        (position + 1))

def factoryRaises (state : Tasks φ) : Option (Tasks φ) :=
  match state.factoryCalls with
  | [] => none
  | _ :: factoryCalls => some { state with factoryCalls }

def setStatus (state : Tasks φ) (change : TaskStatus → TaskStatus) (task : Nat) : Tasks φ :=
  { state with created := state.created.modify task (Prod.map id change) }

/-- `server.stop` up to its await: without a server there is nothing to wait for. -/
def stopServer (state : Tasks φ) : Tasks φ :=
  { state with phase := if state.hasServer then .closing else .stopped }

def stop (state : Tasks φ) : Tasks φ :=
  if state.tasks = [] then state.stopServer
  else
    { state.tasks.foldl (setStatus · TaskStatus.cancel) state with phase := .gathering state.tasks }

end Tasks

inductive TaskAction (φ : Type) where
  | addTask (taskFactory : φ)
  | factoryReturns
  | factoryRaises
  | start
  /-- `asyncio.start_server` returns. -/
  | serverStarted
  | stop
  /-- The gathered tasks are done. -/
  | gathered
  /-- `wait_closed` returns. -/
  | serverClosed
  /-- A task that is not done ends, on its own or as it was asked to. -/
  | taskEnds (task : Nat) (cancelled : Bool)
  deriving DecidableEq, Repr

def TaskAction.ofFactory : TaskAction φ → Bool
  | .addTask _ => true
  | .factoryReturns => true
  | .factoryRaises => true
  | _ => false

def Tasks.perform (state : Tasks φ) : TaskAction φ → Option (Tasks φ)
  | .addTask taskFactory => some (state.addTask taskFactory)
  | .factoryReturns => state.factoryReturns
  | .factoryRaises => state.factoryRaises
  | .start =>
      match state.phase with
      | .new => some (if state.hasServer then { state.startTasks with phase := .running }
          else { state with phase := .starting })
      | _ => none
  | .serverStarted =>
      match state.phase with
      | .starting => some { ({ state with hasServer := true } : Tasks φ).startTasks with
          phase := .running }
      | _ => none
  | .stop =>
      match state.phase with
      | .running => some state.stop
      | _ => none
  | .gathered =>
      match state.phase with
      | .gathering captured =>
          if captured.all fun task => (state.status task).any TaskStatus.done then
            some ({ state with tasks := [] } : Tasks φ).stopServer
          else none
      | _ => none
  | .serverClosed =>
      match state.phase with
      | .closing => some { state with hasServer := false, phase := .stopped }
      | _ => none
  | .taskEnds task cancelled =>
      if (state.status task).any fun status => !status.done then
        some (state.setStatus (fun _ => if cancelled then .cancelled else .finished) task)
      else none

def Tasks.step (state : Tasks φ) (action : TaskAction φ) : Option (Tasks φ) :=
  if state.factoryCalls = [] ∨ action.ofFactory then state.perform action else none

end ClearModbus.ModbusSimulator
