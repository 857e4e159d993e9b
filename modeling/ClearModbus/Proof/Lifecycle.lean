import ClearModbus.Lifecycle
import ClearModbus.Proof.TaskLifetime

/-!
# What a simulator leaves behind

`start` and `stop` may be called any number of times, calls of `stop` may overlap, and any call may
be cut off at an await. When a task is only added while no `stop` waits and `start` calls no
factory, and a call of `start` has the simulator to itself, every task that is not done stays
listed, and the servers that listen stay reachable, so that one more `stop` ends them. Only the
server of a `start` that is cut off before it has set `_server` is out of reach for ever.
-/

namespace ClearModbus.ModbusSimulator

variable {φ : Type}

namespace Tasks

variable {state : Tasks φ}

def Open (state : Tasks φ) (task : Nat) : Prop :=
  ∃ status, state.status task = some status ∧ status.done = false

def taskFactory (state : Tasks φ) (task : Nat) : Option φ :=
  (state.created[task]?).map Prod.fst

structure Generation (state : Tasks φ) (first : Nat) : Prop where
  le_length : first ≤ state.created.length
  tasks : state.tasks = List.range' first (state.created.length - first)
  le_of_open : ∀ task, state.Open task → first ≤ task

theorem Open.lt_length {task : Nat} (h : state.Open task) : task < state.created.length := by
  obtain ⟨status, hstatus, -⟩ := h
  obtain ⟨entry, hentry, -⟩ := Option.map_eq_some_iff.mp hstatus
  exact (List.getElem?_eq_some_iff.mp hentry).1

theorem Generation.mem_tasks {first task : Nat} (h : state.Generation first)
    (hopen : state.Open task) : task ∈ state.tasks := by
  have hle := h.le_of_open task hopen
  have hlt := hopen.lt_length
  rw [h.tasks, List.mem_range'_1]
  omega

theorem Generation.not_open {first : Nat} (h : state.Generation first) (htasks : state.tasks = [])
    (task : Nat) : ¬ state.Open task := by
  intro hopen
  have hmem := h.mem_tasks hopen
  rw [htasks] at hmem
  cases hmem

/-- Tasks that are all done can be forgotten. -/
theorem generation_nil (h : ∀ task, ¬ state.Open task) :
    ({ state with tasks := [] } : Tasks φ).Generation state.created.length :=
  { le_length := le_rfl
    tasks := by simp
    le_of_open := fun task hopen => absurd hopen (h task) }

theorem Creates.open_of_open {next : Tasks φ} {taskFactory : φ}
    (h : state.Creates next taskFactory) {task : Nat} (hopen : next.Open task) :
    state.Open task ∨ task = state.created.length := by
  obtain ⟨status, hstatus, hdone⟩ := hopen
  obtain ⟨entry, hentry, rfl⟩ := Option.map_eq_some_iff.mp hstatus
  rw [h.created] at hentry
  rcases Transition.getElem?_append_singleton hentry with hold | ⟨hnew, -⟩
  · exact .inl ⟨entry.2, by rw [Tasks.status, hold, Option.map_some], hdone⟩
  · exact .inr hnew

theorem Generation.creates {next : Tasks φ} {taskFactory : φ} {first : Nat}
    (h : state.Generation first) (hcreates : state.Creates next taskFactory) :
    next.Generation first := by
  have hle := h.le_length
  have hlength : next.created.length = state.created.length + 1 := by
    rw [hcreates.created, List.length_append, List.length_singleton]
  constructor
  · omega
  · have hcount : state.created.length + 1 - first = state.created.length - first + 1 := by omega
    have hlast : first + 1 * (state.created.length - first) = state.created.length := by omega
    rw [hlength, hcount, List.range'_concat, ← h.tasks, hlast, hcreates.tasks]
  · intro task hopen
    rcases hcreates.open_of_open hopen with hold | rfl
    · exact h.le_of_open task hold
    · exact hle

def factoriesFrom (state : Tasks φ) (first : Nat) : List φ :=
  (state.created.map Prod.fst).drop first

theorem factoriesFrom_creates {next : Tasks φ} {taskFactory : φ} {first : Nat}
    (h : state.Creates next taskFactory) (hle : first ≤ state.created.length) :
    next.factoriesFrom first = state.factoriesFrom first ++ [taskFactory] := by
  rw [factoriesFrom, h.created, List.map_append, List.drop_append_of_le_length]
  · rfl
  · rwa [List.length_map]

/-- The task list and the tasks, whatever else has changed. -/
theorem Generation.congr {next : Tasks φ} {first : Nat} (h : state.Generation first)
    (hcreated : next.created = state.created) (htasks : next.tasks = state.tasks) :
    next.Generation first := by
  refine ⟨hcreated ▸ h.le_length, by rw [htasks, hcreated, h.tasks], fun task hopen => ?_⟩
  apply h.le_of_open task
  rwa [Open, status, hcreated] at hopen

theorem startTasks_fields (state : Tasks φ) :
    state.startTasks.created = state.created ∧ state.startTasks.tasks = state.tasks ∧
      state.startTasks.taskFactories = state.taskFactories ∧
      state.startTasks.hasServer = state.hasServer := by
  rw [startTasks]
  split
  · obtain ⟨hcreated, htasks, hfactories, hserver, -⟩ := startTasksFrom_fields state 0
    exact ⟨hcreated, htasks, hfactories, hserver⟩
  · exact ⟨rfl, rfl, rfl, rfl⟩

/-- `startTasks` calls the first factory or, when there are tasks, none. -/
theorem Generation.covers_startTasks {first : Nat} (h : state.Generation first)
    (hcalls : state.factoryCalls = [])
    (hcovers : state.tasks ≠ [] → state.Covers (state.factoriesFrom first)) :
    state.startTasks.Covers (state.startTasks.factoriesFrom first) := by
  by_cases htasks : state.tasks = []
  · have hcurrent : state.startTasks.factoriesFrom first = [] := by
      have hrange := h.tasks.symm.trans htasks
      rw [List.range'_eq_nil_iff] at hrange
      rw [factoriesFrom, (startTasks_fields state).1, List.drop_eq_nil_iff, List.length_map]
      omega
    rw [hcurrent]
    exact Tasks.covers_startTasks hcalls htasks
  · rw [startTasks, if_neg htasks]
    exact hcovers htasks

theorem status_setStatus (change : TaskStatus → TaskStatus) (task other : Nat) :
    (state.setStatus change task).status other =
      if task = other then (state.status other).map change else state.status other := by
  simp only [Tasks.status, Tasks.setStatus, List.getElem?_modify]
  split <;> cases state.created[other]? <;> rfl

/-- A change that leaves what is done so opens no task. -/
theorem open_setStatus {change : TaskStatus → TaskStatus}
    (hchange : ∀ status, status.done = true → (change status).done = true) {task other : Nat}
    (h : (state.setStatus change task).Open other) : state.Open other := by
  obtain ⟨status, hstatus, hdone⟩ := h
  rw [status_setStatus] at hstatus
  split at hstatus
  · obtain ⟨before, hbefore, rfl⟩ := Option.map_eq_some_iff.mp hstatus
    refine ⟨before, hbefore, ?_⟩
    by_contra hnot
    rw [hchange before (by simpa using hnot)] at hdone
    cases hdone
  · exact ⟨status, hstatus, hdone⟩

theorem done_cancel (status : TaskStatus) (h : status.done = true) : status.cancel.done = true := by
  cases status with
  | running => cases h
  | cancelRequested => cases h
  | cancelled => rfl
  | finished => rfl

/-- Nothing but statuses differs, and no task is open that was not. -/
structure Fades (state next : Tasks φ) : Prop where
  taskFactories : next.taskFactories = state.taskFactories
  tasks : next.tasks = state.tasks
  hasServer : next.hasServer = state.hasServer
  factoryCalls : next.factoryCalls = state.factoryCalls
  factories : next.created.map Prod.fst = state.created.map Prod.fst
  open_of_open : ∀ task, next.Open task → state.Open task

theorem Fades.refl (state : Tasks φ) : state.Fades state :=
  ⟨rfl, rfl, rfl, rfl, rfl, fun _ h => h⟩

theorem Fades.trans {middle next : Tasks φ} (h : state.Fades middle) (hnext : middle.Fades next) :
    state.Fades next :=
  { taskFactories := hnext.taskFactories.trans h.taskFactories
    tasks := hnext.tasks.trans h.tasks
    hasServer := hnext.hasServer.trans h.hasServer
    factoryCalls := hnext.factoryCalls.trans h.factoryCalls
    factories := hnext.factories.trans h.factories
    open_of_open := fun task hopen => h.open_of_open task (hnext.open_of_open task hopen) }

theorem fades_setStatus {change : TaskStatus → TaskStatus}
    (hchange : ∀ status, status.done = true → (change status).done = true) (task : Nat) :
    state.Fades (state.setStatus change task) :=
  ⟨rfl, rfl, rfl, rfl, map_fst_created_setStatus change task, fun _ => open_setStatus hchange⟩

theorem fades_foldl_cancel (state : Tasks φ) (tasks : List Nat) :
    state.Fades (tasks.foldl (setStatus · TaskStatus.cancel) state) := by
  induction tasks generalizing state with
  | nil => exact .refl state
  | cons task tasks ih => exact (fades_setStatus done_cancel task).trans (ih _)

theorem Fades.length {next : Tasks φ} (h : state.Fades next) :
    next.created.length = state.created.length := by
  simpa using congrArg List.length h.factories

theorem Fades.generation {next : Tasks φ} {first : Nat} (h : state.Fades next)
    (hgeneration : state.Generation first) : next.Generation first :=
  { le_length := by rw [h.length]; exact hgeneration.le_length
    tasks := by rw [h.tasks, h.length]; exact hgeneration.tasks
    le_of_open := fun task hopen => hgeneration.le_of_open task (h.open_of_open task hopen) }

theorem Fades.factoriesFrom {next : Tasks φ} (h : state.Fades next) (first : Nat) :
    next.factoriesFrom first = state.factoriesFrom first := by
  rw [Tasks.factoriesFrom, h.factories]
  rfl

end Tasks

namespace Lifecycle

/-- Tasks are added while no `stop` waits and `start` calls no factory, a factory that is called
returns, `start` is called while no call waits, and `stop` while no `start` does. -/
def Orderly (state : Lifecycle φ) : LifecycleAction φ → Prop
  | .addTask _ => (∀ call ∈ state.calls, call = .starting) ∧
      ∀ call ∈ state.simulator.factoryCalls, call.ofStart = false
  | .factoryRaises => False
  | .start => state.calls = []
  | .stop => .starting ∉ state.calls
  | _ => True

structure Stopped (state : Lifecycle φ) : Prop where
  hasServer : state.simulator.hasServer = false
  tasks : state.simulator.tasks = []
  not_open : ∀ task, ¬ state.simulator.Open task
  servers : true ∉ state.servers

/-- The simulator knows what is running. -/
structure Accounted (state : Lifecycle φ) : Prop where
  mem_tasks : ∀ task, state.simulator.Open task → task ∈ state.simulator.tasks
  nodup : state.simulator.tasks.Nodup
  /-- While a server listens there is one task for each factory. -/
  running : true ∈ state.servers → state.simulator.factoryCalls = [] →
    (state.simulator.tasks.map state.simulator.taskFactory).Perm
      (state.simulator.taskFactories.map some)
  /-- Of the servers that `_server` has held at most the one in it listens. -/
  server : ∀ index, state.servers[index]? = some true →
    state.simulator.hasServer = true ∧ index + 1 = state.servers.length
  stopped : state.simulator.hasServer = false → state.Stopped

structure Inv (state : Lifecycle φ) : Prop where
  generation : ∃ first, state.simulator.Generation first ∧
    (true ∈ state.servers → state.simulator.Covers (state.simulator.factoriesFrom first))
  server : ∀ index, state.servers[index]? = some true →
    state.simulator.hasServer = true ∧ index + 1 = state.servers.length
  idle : state.simulator.hasServer = false → state.simulator.tasks = []
  factories : state.simulator.factoryCalls ≠ [] →
    state.simulator.hasServer = true ∧ state.calls = []
  starting : .starting ∈ state.calls →
    state.calls = [.starting] ∧ state.simulator.hasServer = false
  gathering : ∀ captured, .gathering captured ∈ state.calls →
    (∀ task ∈ captured, task < state.simulator.created.length) ∧
      ∀ task, state.simulator.Open task → task ∈ captured
  closing : .closing ∈ state.calls → state.simulator.tasks = [] ∧ true ∉ state.servers

variable {state next : Lifecycle φ}

theorem Inv.init : (Lifecycle.init : Lifecycle φ).Inv where
  generation := ⟨0, ⟨le_rfl, rfl, fun _ _ => Nat.zero_le _⟩, nofun⟩
  server := nofun
  idle := fun _ => rfl
  factories := fun hcalls => absurd rfl hcalls
  starting := nofun
  gathering := nofun
  closing := nofun

/-- With the server set and no call waiting only the tasks and the servers count. -/
theorem inv_of_no_calls (hcalls : state.calls = []) (hset : state.simulator.hasServer = true)
    {first : Nat} (hgeneration : state.simulator.Generation first)
    (hcovers : true ∈ state.servers → state.simulator.Covers (state.simulator.factoriesFrom first))
    (hservers : ∀ index, state.servers[index]? = some true → index + 1 = state.servers.length) :
    state.Inv where
  generation := ⟨first, hgeneration, hcovers⟩
  server := fun index hindex => ⟨hset, hservers index hindex⟩
  idle := fun hnone => absurd (hnone.symm.trans hset) Bool.false_ne_true
  factories := fun _ => ⟨hset, hcalls⟩
  starting := fun hcall => absurd (hcalls ▸ hcall) List.not_mem_nil
  gathering := fun _ hcall => absurd (hcalls ▸ hcall) List.not_mem_nil
  closing := fun hcall => absurd (hcalls ▸ hcall) List.not_mem_nil

theorem Inv.not_open (h : state.Inv) (htasks : state.simulator.tasks = []) (task : Nat) :
    ¬ state.simulator.Open task := by
  obtain ⟨first, hgeneration, -⟩ := h.generation
  exact hgeneration.not_open htasks task

theorem Inv.no_server (h : state.Inv) (hserver : state.simulator.hasServer = false) :
    true ∉ state.servers := by
  intro hmem
  obtain ⟨index, hindex⟩ := List.mem_iff_getElem?.mp hmem
  exact Bool.false_ne_true (hserver.symm.trans (h.server index hindex).1)

theorem Inv.stopped (h : state.Inv) (hserver : state.simulator.hasServer = false) :
    state.Stopped :=
  { hasServer := hserver
    tasks := h.idle hserver
    not_open := h.not_open (h.idle hserver)
    servers := h.no_server hserver }

theorem map_taskFactory_tasks {first : Nat} (h : state.simulator.Generation first) :
    state.simulator.tasks.map state.simulator.taskFactory =
      (state.simulator.factoriesFrom first).map some := by
  have hle := h.le_length
  apply List.ext_getElem
  · simp [h.tasks, Tasks.factoriesFrom]
  · intro position hleft hright
    have hposition : position < state.simulator.created.length - first := by
      simpa [h.tasks] using hleft
    have hlt : first + position < state.simulator.created.length := by omega
    simp [h.tasks, Tasks.taskFactory, Tasks.factoriesFrom, hlt]

theorem Inv.accounted (h : state.Inv) : state.Accounted := by
  obtain ⟨first, hgeneration, hcovers⟩ := h.generation
  constructor
  · exact fun task => hgeneration.mem_tasks
  · rw [hgeneration.tasks]
    exact List.nodup_range'
  · intro hlistens hcalls
    rw [map_taskFactory_tasks hgeneration]
    exact ((hcovers hlistens).perm hcalls).map some
  · exact h.server
  · exact h.stopped

theorem Inv.lt_length_of_mem_tasks (h : state.Inv) {task : Nat}
    (hmem : task ∈ state.simulator.tasks) : task < state.simulator.created.length := by
  obtain ⟨first, hgeneration, -⟩ := h.generation
  have hle := hgeneration.le_length
  rw [hgeneration.tasks, List.mem_range'_1] at hmem
  omega

/-- A call that waits for something else shows that no `start` waits. -/
theorem Inv.not_starting (h : state.Inv) {call : PendingCall} (hcall : call ∈ state.calls)
    (hne : call ≠ .starting) : .starting ∉ state.calls := by
  intro hstarting
  rw [(h.starting hstarting).1, List.mem_singleton] at hcall
  exact hne hcall

theorem Inv.withoutCall (h : state.Inv) (call : Nat) : (state.withoutCall call).Inv where
  generation := h.generation
  server := h.server
  idle := h.idle
  factories := by
    intro hcalls
    obtain ⟨hserver, hnone⟩ := h.factories hcalls
    refine ⟨hserver, ?_⟩
    rw [Lifecycle.withoutCall, hnone]
    rfl
  starting := by
    intro hstarting
    obtain ⟨hcalls, hserver⟩ := h.starting (List.mem_of_mem_eraseIdx hstarting)
    refine ⟨?_, hserver⟩
    rw [Lifecycle.withoutCall, hcalls] at hstarting ⊢
    cases call with
    | zero => cases hstarting
    | succ call => rfl
  gathering := fun captured hcall => h.gathering captured (List.mem_of_mem_eraseIdx hcall)
  closing := fun hcall => h.closing (List.mem_of_mem_eraseIdx hcall)

/-- When tasks end or are asked to, nothing else changes. -/
theorem Inv.fades (h : state.Inv) {simulator : Tasks φ} (hfades : state.simulator.Fades simulator) :
    ({ state with simulator := simulator } : Lifecycle φ).Inv := by
  obtain ⟨first, hgeneration, hcovers⟩ := h.generation
  refine
    { generation := ⟨first, hfades.generation hgeneration, fun hlistens => ?_⟩
      server := fun index hindex => ⟨hfades.hasServer.trans (h.server index hindex).1,
        (h.server index hindex).2⟩
      idle := fun hserver => hfades.tasks.trans (h.idle (hfades.hasServer.symm.trans hserver))
      factories := fun hcalls => ?_
      starting := fun hcall => ⟨(h.starting hcall).1, hfades.hasServer.trans (h.starting hcall).2⟩
      gathering := fun captured hcall => ⟨fun task hmem => ?_, fun task hopen =>
        (h.gathering captured hcall).2 task (hfades.open_of_open task hopen)⟩
      closing := fun hcall => ⟨hfades.tasks.trans (h.closing hcall).1, (h.closing hcall).2⟩ }
  · rw [hfades.factoriesFrom]
    exact (hcovers hlistens).congr hfades.factoryCalls hfades.taskFactories
  · rw [hfades.factoryCalls] at hcalls
    exact ⟨hfades.hasServer.trans (h.factories hcalls).1, (h.factories hcalls).2⟩
  · rw [hfades.length]
    exact (h.gathering captured hcall).1 task hmem

theorem mem_calls_suspend {call pending : PendingCall} :
    call ∈ (state.suspend pending).calls ↔ call ∈ state.calls ∨ call = pending := by
  rw [Lifecycle.suspend, List.mem_append, List.mem_singleton]

theorem Inv.suspend_gathering (h : state.Inv) (hcalled : state.simulator.factoryCalls = [])
    (hstarting : .starting ∉ state.calls) {captured : List Nat}
    (hcreated : ∀ task ∈ captured, task < state.simulator.created.length)
    (hcaptured : ∀ task, state.simulator.Open task → task ∈ captured) :
    (state.suspend (.gathering captured)).Inv where
  generation := h.generation
  server := h.server
  idle := h.idle
  factories := fun hcalls => absurd hcalled hcalls
  starting := fun hcall => absurd ((mem_calls_suspend.mp hcall).resolve_right nofun) hstarting
  gathering := by
    intro other hcall
    rcases mem_calls_suspend.mp hcall with hold | hnew
    · exact h.gathering other hold
    · cases hnew
      exact ⟨hcreated, hcaptured⟩
  closing := fun hcall => h.closing ((mem_calls_suspend.mp hcall).resolve_right nofun)

/-- Closing the last server closes the one that listens. -/
theorem Inv.closed (h : state.Inv) :
    true ∉ state.servers.set (state.servers.length - 1) false := by
  intro hmem
  obtain ⟨index, hindex⟩ := List.mem_iff_getElem?.mp hmem
  rw [List.getElem?_set] at hindex
  split at hindex
  · split at hindex <;> cases hindex
  · have hlast := (h.server index hindex).2
    omega

def cleared (state : Lifecycle φ) : Lifecycle φ :=
  { state with simulator := { state.simulator with tasks := [] } }

theorem cleared_of_no_tasks (htasks : state.simulator.tasks = []) : state.cleared = state := by
  rw [cleared, ← htasks]

/-- Once all tasks are done, `stop` forgets them and closes the server. -/
theorem Inv.stopServer (h : state.Inv) (hcalled : state.simulator.factoryCalls = [])
    (hopen : ∀ task, ¬ state.simulator.Open task) (hstarting : .starting ∉ state.calls) :
    state.cleared.stopServer.Inv := by
  have hgeneration := Tasks.generation_nil hopen
  rw [Lifecycle.stopServer]
  split
  · have hclosed := h.closed
    exact
      { generation := ⟨_, hgeneration, fun hlistens => absurd hlistens hclosed⟩
        server := fun index hindex => absurd (List.mem_of_getElem? hindex) hclosed
        idle := fun _ => rfl
        factories := fun hcalls => absurd hcalled hcalls
        starting := fun hcall =>
          absurd ((mem_calls_suspend.mp hcall).resolve_right nofun) hstarting
        gathering := fun captured hcall =>
          h.gathering captured ((mem_calls_suspend.mp hcall).resolve_right nofun)
        closing := fun _ => ⟨rfl, hclosed⟩ }
  · rename_i hserver
    have hnone := h.no_server (by simpa [cleared] using hserver)
    exact
      { h with
        generation := ⟨_, hgeneration, fun hlistens => absurd hlistens hnone⟩
        idle := fun _ => rfl
        factories := fun hcalls => absurd hcalled hcalls
        closing := fun _ => ⟨rfl, hnone⟩ }

theorem Inv.stop (h : state.Inv) (hcalled : state.simulator.factoryCalls = [])
    (hstarting : .starting ∉ state.calls) : state.stop.Inv := by
  rw [Lifecycle.stop]
  split
  · rename_i htasks
    rw [← cleared_of_no_tasks htasks]
    exact h.stopServer hcalled (h.not_open htasks) hstarting
  · have hfades := Tasks.fades_foldl_cancel state.simulator state.simulator.tasks
    apply (h.fades hfades).suspend_gathering (hfades.factoryCalls.trans hcalled) hstarting
    · intro task hmem
      rw [hfades.length]
      exact h.lt_length_of_mem_tasks hmem
    · intro task hopen
      exact h.accounted.mem_tasks task (hfades.open_of_open task hopen)

/-- A server that was set before, and may be closed, or one that has just been opened. -/
theorem Inv.startTasks (h : state.Inv) (hcalled : state.simulator.factoryCalls = [])
    (hcalls : state.calls = []) {servers : List Bool} (hserver : state.simulator.hasServer = true)
    (hservers : ∀ index, servers[index]? = some true → index + 1 = servers.length)
    (hlistens : true ∈ servers → true ∉ state.servers → state.simulator.tasks = []) :
    ({ state with simulator := state.simulator.startTasks, servers := servers } :
      Lifecycle φ).Inv := by
  obtain ⟨first, hgeneration, hcovers⟩ := h.generation
  obtain ⟨hcreated, htasks, -, hset⟩ := Tasks.startTasks_fields state.simulator
  refine inv_of_no_calls hcalls (hset.trans hserver) (hgeneration.congr hcreated htasks)
    (fun hmem => ?_) hservers
  apply hgeneration.covers_startTasks hcalled
  intro hsome
  exact hcovers (by_contra fun hnot => hsome (hlistens hmem hnot))

theorem Inv.suspend_starting (h : state.Inv) (hcalled : state.simulator.factoryCalls = [])
    (hcalls : state.calls = []) (hserver : state.simulator.hasServer = false) :
    (state.suspend .starting).Inv := by
  refine
    { h with
      factories := fun hsome => absurd hcalled hsome
      starting := fun _ => ⟨?_, hserver⟩
      gathering := fun captured hcall =>
        h.gathering captured ((mem_calls_suspend.mp hcall).resolve_right nofun)
      closing := fun hcall => h.closing ((mem_calls_suspend.mp hcall).resolve_right nofun) }
  rw [Lifecycle.suspend, hcalls]
  rfl

theorem Inv.start (h : state.Inv) (hcalled : state.simulator.factoryCalls = [])
    (hcalls : state.calls = []) : state.start.Inv := by
  rw [Lifecycle.start]
  split
  · rename_i hserver
    exact h.startTasks hcalled hcalls hserver (fun index hindex => (h.server index hindex).2)
      fun hmem hnot => absurd hmem hnot
  · rename_i hserver
    exact h.suspend_starting hcalled hcalls (by simpa using hserver)

/-- With the server set a `start` that waited for it creates its tasks. -/
theorem Inv.resumed_starting (h : state.Inv) (hcalled : state.simulator.factoryCalls = [])
    (hcalls : state.calls = []) (hserver : state.simulator.hasServer = false)
    (hstep : state.resumed .starting = some next) : next.Inv := by
  cases hstep
  obtain ⟨first, hgeneration, -⟩ := h.generation
  have hnone := h.no_server hserver
  have hset : ({ state with simulator := { state.simulator with hasServer := true } } :
      Lifecycle φ).Inv :=
    inv_of_no_calls hcalls rfl (hgeneration.congr rfl rfl) (fun hmem => absurd hmem hnone)
      fun index hindex => absurd (List.mem_of_getElem? hindex) hnone
  apply hset.startTasks hcalled hcalls rfl
  · intro index hindex
    rcases Transition.getElem?_append_singleton hindex with hold | ⟨rfl, -⟩
    · exact absurd (List.mem_of_getElem? hold) hnone
    · rw [List.length_append, List.length_singleton]
  · exact fun _ _ => h.idle hserver

/-- The gathered tasks were all that ran. -/
theorem Inv.not_open_of_gathered (h : state.Inv) {captured : List Nat}
    (hcall : .gathering captured ∈ state.calls)
    (hdone : captured.all (fun task => (state.simulator.status task).any TaskStatus.done) = true)
    (task : Nat) : ¬ state.simulator.Open task := by
  rintro hopen
  have hany := List.all_eq_true.mp hdone task ((h.gathering captured hcall).2 task hopen)
  obtain ⟨status, hstatus, hnot⟩ := hopen
  rw [hstatus, Option.any_some, hnot] at hany
  cases hany

theorem Inv.resumed_gathering (h : state.Inv) (hcalled : state.simulator.factoryCalls = [])
    (hstarting : .starting ∉ state.calls) {captured : List Nat}
    (hopen : captured.all (fun task => (state.simulator.status task).any TaskStatus.done) = true →
      ∀ task, ¬ state.simulator.Open task)
    (hstep : state.resumed (.gathering captured) = some next) : next.Inv := by
  rw [Lifecycle.resumed] at hstep
  split at hstep
  · rename_i hdone
    cases hstep
    exact h.stopServer hcalled (hopen hdone) hstarting
  · cases hstep

theorem Inv.resumed_closing (h : state.Inv) (hcalled : state.simulator.factoryCalls = [])
    (hstarting : .starting ∉ state.calls) (htasks : state.simulator.tasks = [])
    (hclosed : true ∉ state.servers) (hstep : state.resumed .closing = some next) : next.Inv := by
  cases hstep
  obtain ⟨first, hgeneration, -⟩ := h.generation
  exact
    { generation := ⟨first, hgeneration.congr rfl rfl, fun hmem => absurd hmem hclosed⟩
      server := fun index hindex => absurd (List.mem_of_getElem? hindex) hclosed
      idle := fun _ => htasks
      factories := fun hsome => absurd hcalled hsome
      starting := fun hcall => absurd hcall hstarting
      gathering := h.gathering
      closing := fun _ => ⟨htasks, hclosed⟩ }

/-- A call that waits shows that no factory is called. -/
theorem Inv.not_called (h : state.Inv) {call : PendingCall} (hcall : call ∈ state.calls) :
    state.simulator.factoryCalls = [] := by
  by_contra hsome
  rw [(h.factories hsome).2] at hcall
  cases hcall

theorem Inv.resumed (h : state.Inv) {call : Nat} {pending : PendingCall}
    (hcall : state.calls[call]? = some pending)
    (hstep : (state.withoutCall call).resumed pending = some next) : next.Inv := by
  have hmem := List.mem_of_getElem? hcall
  have hcalled := h.not_called hmem
  have hrest := h.withoutCall call
  cases pending with
  | starting =>
      obtain ⟨hcalls, hserver⟩ := h.starting hmem
      refine hrest.resumed_starting hcalled ?_ hserver hstep
      have hlt := (List.getElem?_eq_some_iff.mp hcall).1
      rw [hcalls, List.length_singleton, Nat.lt_one_iff] at hlt
      rw [Lifecycle.withoutCall, hcalls, hlt]
      rfl
  | gathering captured =>
      have hstarting := h.not_starting hmem nofun
      refine hrest.resumed_gathering hcalled (fun hcall => ?_) (h.not_open_of_gathered hmem) hstep
      exact hstarting (List.mem_of_mem_eraseIdx hcall)
  | closing =>
      have hstarting := h.not_starting hmem nofun
      obtain ⟨htasks, hclosed⟩ := h.closing hmem
      refine hrest.resumed_closing hcalled (fun hcall => ?_) htasks hclosed hstep
      exact hstarting (List.mem_of_mem_eraseIdx hcall)

/-- A task added while the simulator runs is started, and one added before is only registered. -/
theorem Inv.addTask (h : state.Inv) (hcalls : ∀ call ∈ state.calls, call = .starting)
    (hapart : ∀ call ∈ state.simulator.factoryCalls, call.ofStart = false) (taskFactory : φ) :
    ({ state with simulator := state.simulator.addTask taskFactory } : Lifecycle φ).Inv := by
  obtain ⟨first, hgeneration, hcovers⟩ := h.generation
  cases hserver : state.simulator.hasServer with
  | true =>
      have hnil : state.calls = [] := by
        rw [List.eq_nil_iff_forall_not_mem]
        intro call hcall
        have hnone := (h.starting (hcalls call hcall ▸ hcall)).2
        rw [hserver] at hnone
        cases hnone
      have hadded : true ∈ state.servers → (state.simulator.addTask taskFactory).Covers
          (state.simulator.factoriesFrom first) := fun hmem =>
        (hcovers hmem).addTask hserver hapart taskFactory
      rw [Tasks.addTask, if_pos hserver] at hadded ⊢
      exact inv_of_no_calls hnil hserver (hgeneration.congr rfl rfl) hadded
        fun index hindex => (h.server index hindex).2
  | false =>
      have hnone := h.no_server hserver
      rw [Tasks.addTask_of_no_server hserver]
      exact
        { h with
          generation := ⟨first, hgeneration.congr rfl rfl, fun hmem => absurd hmem hnone⟩ }

theorem Inv.factoryReturns (h : state.Inv) {simulator : Tasks φ}
    (hreturns : state.simulator.factoryReturns = some simulator) :
    ({ state with simulator := simulator } : Lifecycle φ).Inv := by
  obtain ⟨first, hgeneration, hcovers⟩ := h.generation
  obtain ⟨taskFactory, hcreates, hcovered⟩ := Tasks.creates_of_factoryReturns hreturns
  have hsome : state.simulator.factoryCalls ≠ [] := by
    intro hnone
    rw [Tasks.factoryReturns, hnone] at hreturns
    cases hreturns
  obtain ⟨hserver, hcalls⟩ := h.factories hsome
  refine inv_of_no_calls hcalls (hcreates.hasServer.trans hserver) (hgeneration.creates hcreates)
    (fun hmem => ?_) fun index hindex => (h.server index hindex).2
  rw [Tasks.factoriesFrom_creates hcreates hgeneration.le_length]
  exact hcovered _ (hcovers hmem)

theorem fades_taskEnds (state : Tasks φ) (task : Nat) (cancelled : Bool) :
    state.Fades (state.setStatus (fun _ => if cancelled then .cancelled else .finished) task) := by
  apply Tasks.fades_setStatus
  intro status hdone
  cases cancelled <;> rfl

/-- What each action does where it is enabled. -/
inductive Performed (state : Lifecycle φ) : LifecycleAction φ → Lifecycle φ → Prop where
  | addTask (taskFactory : φ) :
      Performed state (.addTask taskFactory)
        { state with simulator := state.simulator.addTask taskFactory }
  | factoryReturns {simulator : Tasks φ} (h : state.simulator.factoryReturns = some simulator) :
      Performed state .factoryReturns { state with simulator }
  | factoryRaises {simulator : Tasks φ} (h : state.simulator.factoryRaises = some simulator) :
      Performed state .factoryRaises { state with simulator }
  | start (hcalled : state.simulator.factoryCalls = []) : Performed state .start state.start
  | stop (hcalled : state.simulator.factoryCalls = []) : Performed state .stop state.stop
  | resume {call : Nat} {pending : PendingCall} {next : Lifecycle φ}
      (hcall : state.calls[call]? = some pending)
      (hresumed : (state.withoutCall call).resumed pending = some next) :
      Performed state (.resume call) next
  | startCutOff (call : Nat) (opened : Bool) (hcall : state.calls[call]? = some .starting) :
      Performed state (.cutOff call opened)
        { state.withoutCall call with strays := state.strays + opened.toNat }
  | stopCutOff (call : Nat) (opened : Bool) {pending : PendingCall}
      (hcall : state.calls[call]? = some pending) (hne : pending ≠ .starting) :
      Performed state (.cutOff call opened) (state.withoutCall call)
  | taskEnds (task : Nat) (cancelled : Bool)
      (hopen : ((state.simulator.status task).any fun status => !status.done) = true) :
      Performed state (.taskEnds task cancelled)
        { state with
          simulator := state.simulator.setStatus
            (fun _ => if cancelled then .cancelled else .finished) task }

theorem performed_of_step {action : LifecycleAction φ} (hstep : state.step action = some next) :
    state.Performed action next := by
  rw [Lifecycle.step] at hstep
  split at hstep
  case isFalse => cases hstep
  rename_i hcalled
  cases action with
  | addTask taskFactory =>
      cases hstep
      exact .addTask taskFactory
  | factoryReturns =>
      obtain ⟨simulator, hreturns, rfl⟩ := Option.map_eq_some_iff.mp hstep
      exact .factoryReturns hreturns
  | factoryRaises =>
      obtain ⟨simulator, hraises, rfl⟩ := Option.map_eq_some_iff.mp hstep
      exact .factoryRaises hraises
  | start =>
      cases hstep
      exact .start (hcalled.resolve_right nofun)
  | stop =>
      cases hstep
      exact .stop (hcalled.resolve_right nofun)
  | resume call =>
      rw [Lifecycle.perform] at hstep
      split at hstep
      · rename_i pending hcall
        exact .resume hcall hstep
      · cases hstep
  | cutOff call opened =>
      rw [Lifecycle.perform] at hstep
      split at hstep
      · rename_i hcall
        cases hstep
        exact .startCutOff call opened hcall
      · rename_i pending hne hcall
        cases hstep
        exact .stopCutOff call opened hcall hne
      · cases hstep
  | taskEnds task cancelled =>
      rw [Lifecycle.perform] at hstep
      split at hstep
      · rename_i hopen
        cases hstep
        exact .taskEnds task cancelled hopen
      · cases hstep

theorem Inv.step (h : state.Inv) {action : LifecycleAction φ} (hguard : state.Orderly action)
    (hstep : state.step action = some next) : next.Inv := by
  cases performed_of_step hstep with
  | addTask taskFactory => exact h.addTask hguard.1 hguard.2 taskFactory
  | factoryReturns hreturns => exact h.factoryReturns hreturns
  | factoryRaises hraises => exact hguard.elim
  | start hcalled => exact h.start hcalled hguard
  | stop hcalled => exact h.stop hcalled hguard
  | resume hcall hresumed => exact h.resumed hcall hresumed
  | startCutOff call opened hcall => exact { h.withoutCall call with }
  | stopCutOff call opened hcall hne => exact h.withoutCall call
  | taskEnds task cancelled hopen =>
      exact h.fades (fades_taskEnds state.simulator task cancelled)

theorem inv_of_reaches (h : Transition.Reaches step Orderly init state) : state.Inv :=
  h.invariant Inv.init fun _ _ _ hinv hguard hstep => hinv.step hguard hstep

def Uncut (state : Lifecycle φ) : LifecycleAction φ → Prop
  | .cutOff call _ => state.calls[call]? = some .starting
  | action => state.Orderly action

/-- While no `stop` waits, no task has been asked to end. -/
def Undisturbed (state : Lifecycle φ) : Prop :=
  (∀ call ∈ state.calls, call = .starting) →
    ∀ task, state.simulator.status task ≠ some .cancelRequested

theorem orderly_of_uncut {action : LifecycleAction φ} (h : state.Uncut action) :
    state.Orderly action := by
  cases action with
  | cutOff call opened => trivial
  | addTask taskFactory => exact h
  | factoryReturns => trivial
  | factoryRaises => exact h
  | start => exact h
  | stop => exact h
  | resume call => trivial
  | taskEnds task cancelled => trivial

theorem not_asked_of_not_open {simulator : Tasks φ} (h : ∀ task, ¬ simulator.Open task)
    (task : Nat) :
    simulator.status task ≠ some .cancelRequested :=
  fun hstatus => h task ⟨_, hstatus, rfl⟩

theorem not_asked_of_creates {simulator after : Tasks φ} {taskFactory : φ}
    (hcreates : simulator.Creates after taskFactory)
    (h : ∀ task, simulator.status task ≠ some .cancelRequested) (task : Nat) :
    after.status task ≠ some .cancelRequested := by
  intro hstatus
  obtain ⟨entry, hentry, hasked⟩ := Option.map_eq_some_iff.mp hstatus
  rw [hcreates.created] at hentry
  rcases Transition.getElem?_append_singleton hentry with hold | ⟨-, rfl⟩
  · exact h task (by rw [Tasks.status, hold, Option.map_some, hasked])
  · cases hasked

@[simp] theorem status_startTasks (simulator : Tasks φ) (task : Nat) :
    simulator.startTasks.status task = simulator.status task := by
  rw [Tasks.status, (Tasks.startTasks_fields simulator).1]
  rfl

@[simp] theorem status_addTask (simulator : Tasks φ) (taskFactory : φ) (task : Nat) :
    (simulator.addTask taskFactory).status task = simulator.status task := by
  rw [Tasks.addTask]
  split <;> rfl

theorem not_forall_starting_suspend {call : PendingCall} (hne : call ≠ .starting) :
    ¬ ∀ other ∈ (state.suspend call).calls, other = .starting :=
  fun hall => hne (hall call (List.mem_append_right _ List.mem_cons_self))

/-- A `stop` waits for the server unless all has ended. -/
theorem undisturbed_stopServer (hopen : ∀ task, ¬ state.simulator.Open task) :
    state.stopServer.Undisturbed := by
  rw [Lifecycle.stopServer]
  split
  · exact fun hcalls => absurd hcalls (not_forall_starting_suspend (by simp))
  · exact fun _ => not_asked_of_not_open hopen

theorem undisturbed_resumed (h : state.Inv) (hquiet : state.Undisturbed) {call : Nat}
    {pending : PendingCall} (hcall : state.calls[call]? = some pending)
    (hstep : (state.withoutCall call).resumed pending = some next) : next.Undisturbed := by
  have hmem := List.mem_of_getElem? hcall
  cases pending with
  | starting =>
      cases hstep
      have hcalls := (h.starting hmem).1
      intro _ task
      rw [status_startTasks]
      refine hquiet ?_ task
      rw [hcalls]
      exact fun other hother => List.mem_singleton.mp hother
  | gathering captured =>
      rw [Lifecycle.resumed] at hstep
      split at hstep
      · rename_i hdone
        cases hstep
        exact undisturbed_stopServer (h.not_open_of_gathered hmem hdone)
      · cases hstep
  | closing =>
      cases hstep
      exact fun _ => not_asked_of_not_open (h.not_open (h.closing hmem).1)

theorem undisturbed_step (h : state.Inv) (hquiet : state.Undisturbed) {action : LifecycleAction φ}
    (hguard : state.Uncut action) (hstep : state.step action = some next) : next.Undisturbed := by
  cases performed_of_step hstep with
  | addTask taskFactory =>
      intro hcalls task
      rw [status_addTask]
      exact hquiet hcalls task
  | factoryReturns hreturns =>
      obtain ⟨taskFactory, hcreates, -⟩ := Tasks.creates_of_factoryReturns hreturns
      exact fun hcalls => not_asked_of_creates hcreates (hquiet hcalls)
  | factoryRaises hraises => exact hguard.elim
  | start hcalled =>
      have hcalls : state.calls = [] := hguard
      have hbefore := hquiet (by simp [hcalls])
      intro _ task
      rw [Lifecycle.start]
      split
      · rw [status_startTasks]
        exact hbefore task
      · exact hbefore task
  | stop hcalled =>
      rw [Lifecycle.stop]
      split
      · rename_i htasks
        exact undisturbed_stopServer (h.not_open htasks)
      · exact fun hcalls => absurd hcalls (not_forall_starting_suspend (by simp))
  | resume hcall hresumed => exact undisturbed_resumed h hquiet hcall hresumed
  | startCutOff call opened hcall =>
      intro _
      apply hquiet
      rw [(h.starting (List.mem_of_getElem? hcall)).1]
      exact fun other hother => List.mem_singleton.mp hother
  | stopCutOff call opened hcall hne =>
      have hstarting : state.calls[call]? = some .starting := hguard
      exact absurd (Option.some.inj (hcall.symm.trans hstarting)) hne
  | taskEnds task cancelled hopen =>
      intro hcalls other
      have hbefore := hquiet hcalls other
      rw [Tasks.status_setStatus]
      split
      · cases state.simulator.status other <;> cases cancelled <;> simp
      · exact hbefore

theorem undisturbed_of_reaches (h : Transition.Reaches step Uncut init state) :
    state.Undisturbed := by
  have hboth : state.Inv ∧ state.Undisturbed := by
    induction h with
    | refl => exact ⟨Inv.init, fun _ _ => nofun⟩
    | tail action _ hguard hstep ih =>
        obtain ⟨hinv, hquiet⟩ := ih
        exact ⟨hinv.step (orderly_of_uncut hguard) hstep,
          undisturbed_step hinv hquiet hguard hstep⟩
  exact hboth.2

def Kept (state : Lifecycle φ) : LifecycleAction φ → Prop
  | .cutOff _ opened => opened = false
  | action => state.Orderly action

theorem strays_stopServer (state : Lifecycle φ) : state.stopServer.strays = state.strays := by
  rw [Lifecycle.stopServer]
  split <;> rfl

theorem strays_stop (state : Lifecycle φ) : state.stop.strays = state.strays := by
  rw [Lifecycle.stop]
  split
  · exact strays_stopServer state
  · rfl

theorem strays_resumed {pending : PendingCall} (hstep : state.resumed pending = some next) :
    next.strays = state.strays := by
  cases pending with
  | starting =>
      cases hstep
      rfl
  | gathering captured =>
      rw [Lifecycle.resumed] at hstep
      split at hstep
      · cases hstep
        exact strays_stopServer _
      · cases hstep
  | closing =>
      cases hstep
      rfl

/-- Only a `start` that is cut off after its server was opened leaves one out of reach, and nothing
brings one back. -/
theorem strays_step {action : LifecycleAction φ} (hkept : ∀ call, action ≠ .cutOff call true)
    (hstep : state.step action = some next) : next.strays = state.strays := by
  cases performed_of_step hstep with
  | addTask taskFactory => rfl
  | factoryReturns hreturns => rfl
  | factoryRaises hraises => rfl
  | start hcalled =>
      rw [Lifecycle.start]
      split <;> rfl
  | stop hcalled => exact strays_stop state
  | resume hcall hresumed => exact (strays_resumed hresumed).trans rfl
  | startCutOff call opened hcall =>
      have hnot : opened = false := by simpa using hkept call
      rw [hnot]
      rfl
  | stopCutOff call opened hcall hne => rfl
  | taskEnds task cancelled hopen => rfl

theorem strays_of_reaches (h : Transition.Reaches step Kept init state) : state.strays = 0 := by
  induction h with
  | refl => rfl
  | tail action _ hguard hstep ih =>
      refine (strays_step ?_ hstep).trans ih
      rintro call rfl
      cases hguard

def Winding (state : Lifecycle φ) : LifecycleAction φ → Prop
  | .addTask _ => False
  | .factoryReturns => True
  | .factoryRaises => False
  | .start => False
  | .stop => .starting ∉ state.calls
  | .resume _ => True
  | .cutOff _ _ => False
  | .taskEnds _ _ => True

theorem orderly_of_winding {action : LifecycleAction φ} (h : state.Winding action) :
    state.Orderly action := by
  cases action with
  | addTask taskFactory => exact h.elim
  | factoryReturns => trivial
  | factoryRaises => exact h
  | start => exact h.elim
  | stop => exact h
  | resume call => trivial
  | cutOff call opened => trivial
  | taskEnds task cancelled => trivial

theorem strays_winding (h : Transition.Reaches step Winding state next) :
    next.strays = state.strays := by
  induction h with
  | refl => rfl
  | tail action _ hguard hstep ih =>
      refine (strays_step ?_ hstep).trans ih
      rintro call rfl
      exact hguard

theorem Inv.winding (h : state.Inv)
    (hreach : Transition.Reaches Lifecycle.step Winding state next) :
    next.Inv :=
  hreach.invariant h fun _ _ _ hinv hguard hstep => hinv.step (orderly_of_winding hguard) hstep

theorem step_of_not_called (hcalled : state.simulator.factoryCalls = [])
    (action : LifecycleAction φ) : state.step action = state.perform action :=
  if_pos (.inl hcalled)

def returnsLeft (count : Nat) : FactoryCall φ → Nat
  | .adding _ => 1
  | .starting position _ => count - position + 1

theorem factory_returns {simulator : Tasks φ} {call : FactoryCall φ}
    {factoryCalls : List (FactoryCall φ)} (hcalls : simulator.factoryCalls = call :: factoryCalls) :
    ∃ after, simulator.factoryReturns = some after ∧
      (after.factoryCalls.map (returnsLeft after.taskFactories.length)).sum <
        (simulator.factoryCalls.map (returnsLeft simulator.taskFactories.length)).sum := by
  rw [Tasks.factoryReturns, hcalls]
  cases call with
  | adding taskFactory =>
      refine ⟨_, rfl, ?_⟩
      simp [Tasks.createTask, returnsLeft]
  | starting position taskFactory =>
      refine ⟨_, rfl, ?_⟩
      rw [Tasks.startTasksFrom]
      split
      · rename_i following hposition
        have hlt : position + 1 < simulator.taskFactories.length :=
          (List.getElem?_eq_some_iff.mp hposition).1
        simp [Tasks.callFactory, Tasks.createTask, returnsLeft]
        omega
      · simp [Tasks.createTask, returnsLeft]

/-- The factories being called can all return, and no call goes on meanwhile. -/
theorem factories_return (state : Lifecycle φ) :
    ∃ next, Transition.Reaches step Winding state next ∧ next.simulator.factoryCalls = [] ∧
      next.calls = state.calls := by
  induction hcount : (state.simulator.factoryCalls.map
      (returnsLeft state.simulator.taskFactories.length)).sum using Nat.strong_induction_on
    generalizing state with
  | h count ih =>
      subst hcount
      cases hcalls : state.simulator.factoryCalls with
      | nil => exact ⟨state, .refl, hcalls, rfl⟩
      | cons call factoryCalls =>
          obtain ⟨simulator, hreturns, hless⟩ := factory_returns hcalls
          obtain ⟨next, hrest, hnone, hsame⟩ := ih _ hless { state with simulator } rfl
          have hstep : state.step .factoryReturns = some { state with simulator } := by
            rw [Lifecycle.step, if_pos (.inr rfl), Lifecycle.perform, hreturns]
            rfl
          have hreach : Transition.Reaches step Winding state { state with simulator } :=
            .tail .factoryReturns .refl trivial hstep
          exact ⟨next, hreach.trans hrest, hnone, hsame⟩

/-- The tasks before `count` end one after the other. -/
theorem tasks_end (hcalled : state.simulator.factoryCalls = []) (count : Nat) :
    ∃ simulator : Tasks φ,
      Transition.Reaches step Winding state { state with simulator := simulator } ∧
        state.simulator.Fades simulator ∧ ∀ task < count, ¬ simulator.Open task := by
  induction count with
  | zero => exact ⟨state.simulator, .refl, .refl _, nofun⟩
  | succ count ih =>
      obtain ⟨simulator, hreach, hfades, hended⟩ := ih
      by_cases hopen : simulator.Open count
      · obtain ⟨status, hstatus, hdone⟩ := id hopen
        have hends := fades_taskEnds simulator count true
        refine ⟨_, hreach.tail (.taskEnds count true) trivial ?_, hfades.trans hends, ?_⟩
        · rw [step_of_not_called (hfades.factoryCalls.trans hcalled), Lifecycle.perform, if_pos]
          rw [hstatus, Option.any_some, hdone]
          rfl
        · intro task hlt hstill
          rcases Nat.lt_succ_iff_lt_or_eq.mp hlt with hbefore | rfl
          · exact hended task hbefore (hends.open_of_open task hstill)
          · obtain ⟨last, hlast, hnot⟩ := hstill
            rw [Tasks.status_setStatus, if_pos rfl, hstatus] at hlast
            cases hlast
            cases hnot
      · refine ⟨simulator, hreach, hfades, fun task hlt => ?_⟩
        rcases Nat.lt_succ_iff_lt_or_eq.mp hlt with hbefore | rfl
        · exact hended task hbefore
        · exact hopen

theorem all_tasks_end (hcalled : state.simulator.factoryCalls = []) :
    ∃ simulator : Tasks φ,
      Transition.Reaches step Winding state { state with simulator := simulator } ∧
        state.simulator.Fades simulator ∧ ∀ task, ¬ simulator.Open task := by
  obtain ⟨simulator, hreach, hfades, hended⟩ :=
    tasks_end hcalled state.simulator.created.length
  refine ⟨simulator, hreach, hfades, fun task hopen => hended task ?_ hopen⟩
  exact (hfades.open_of_open task hopen).lt_length

def awaits : PendingCall → Nat
  | .starting => 1
  | .gathering _ => 2
  | .closing => 1

/-- With all tasks done, the first call can go on. -/
theorem first_call_resumes (h : state.Inv) (hopen : ∀ task, ¬ state.simulator.Open task)
    (hstarting : .starting ∉ state.calls) {call : PendingCall} {calls : List PendingCall}
    (hcalls : state.calls = call :: calls) :
    ∃ next, state.step (.resume 0) = some next ∧ (∀ task, ¬ next.simulator.Open task) ∧
      .starting ∉ next.calls ∧ (next.calls = [] → next.simulator.hasServer = false) ∧
      (next.calls.map awaits).sum < (state.calls.map awaits).sum := by
  have hfirst : state.calls[0]? = some call := by rw [hcalls, List.getElem?_cons_zero]
  have hrest : (state.withoutCall 0).calls = calls := by
    rw [Lifecycle.withoutCall, hcalls]
    rfl
  have hnone : .starting ∉ calls := fun hmem => hstarting (hcalls ▸ List.mem_cons_of_mem _ hmem)
  rw [step_of_not_called (h.not_called (List.mem_of_getElem? hfirst)), Lifecycle.perform, hfirst]
  dsimp only
  cases call with
  | starting => exact absurd (hcalls ▸ List.mem_cons_self) hstarting
  | gathering captured =>
      have hdone : captured.all (fun task =>
          ((state.withoutCall 0).simulator.status task).any TaskStatus.done) = true := by
        rw [List.all_eq_true]
        intro task hmem
        have hlt := (h.gathering captured (hcalls ▸ List.mem_cons_self)).1 task hmem
        have hstatus : (state.withoutCall 0).simulator.status task =
            some (state.simulator.created[task]).2 := by
          rw [Tasks.status, withoutCall, List.getElem?_eq_getElem hlt, Option.map_some]
        rw [hstatus, Option.any_some]
        by_contra hnot
        exact hopen task ⟨_, hstatus, by simpa using hnot⟩
      rw [Lifecycle.resumed, if_pos hdone]
      refine ⟨_, rfl, ?_, ?_, ?_, ?_⟩
      · rw [Lifecycle.stopServer]
        split <;> exact hopen
      · rw [Lifecycle.stopServer]
        split
        · simpa [Lifecycle.suspend, hrest] using hnone
        · simpa [hrest] using hnone
      · rw [Lifecycle.stopServer]
        split
        · simp [Lifecycle.suspend]
        · rename_i hserver
          exact fun _ => by simpa using hserver
      · rw [Lifecycle.stopServer, hcalls]
        split
        · simp [Lifecycle.suspend, hrest, awaits]
          omega
        · simp [hrest, awaits]
  | closing =>
      refine ⟨_, rfl, hopen, hrest ▸ hnone, fun _ => rfl, ?_⟩
      simp [hrest, hcalls, awaits]

/-- With all tasks done, the calls of `stop` return, and the last one leaves no server. -/
theorem pending_calls_return (h : state.Inv) (hopen : ∀ task, ¬ state.simulator.Open task)
    (hstarting : .starting ∉ state.calls)
    (hserver : state.calls = [] → state.simulator.hasServer = false) :
    ∃ final, Transition.Reaches step Winding state final ∧ final.calls = [] ∧
      final.simulator.hasServer = false := by
  induction hcount : (state.calls.map awaits).sum using Nat.strong_induction_on
    generalizing state with
  | h count ih =>
      subst hcount
      cases hcalls : state.calls with
      | nil => exact ⟨state, .refl, hcalls, hserver hcalls⟩
      | cons call calls =>
          obtain ⟨next, hstep, hnext, hnone, hlast, hless⟩ :=
            first_call_resumes h hopen hstarting hcalls
          have hreach : Transition.Reaches step Winding state next :=
            .tail (.resume 0) .refl trivial hstep
          have hinv := h.winding hreach
          obtain ⟨final, hrest, hdone⟩ := ih _ hless hinv hnext hnone hlast rfl
          exact ⟨final, hreach.trans hrest, hdone⟩

/-- A `start` that waits can return, and so can the factories it calls. -/
theorem Inv.start_returns (h : state.Inv) :
    ∃ ready, Transition.Reaches Lifecycle.step Winding state ready ∧
      ready.simulator.factoryCalls = [] ∧ .starting ∉ ready.calls := by
  by_cases hstarting : .starting ∈ state.calls
  · have hcalls := (h.starting hstarting).1
    have hstep : state.step (.resume 0) = (state.withoutCall 0).resumed .starting := by
      rw [step_of_not_called (h.not_called hstarting), Lifecycle.perform, hcalls,
        List.getElem?_cons_zero]
    have hresumed : Transition.Reaches Lifecycle.step Winding state _ :=
      .tail (.resume 0) .refl trivial hstep
    obtain ⟨ready, hreturn, hcalled, hsame⟩ := factories_return _
    refine ⟨ready, hresumed.trans hreturn, hcalled, ?_⟩
    rw [hsame]
    simp [Lifecycle.withoutCall, hcalls]
  · obtain ⟨ready, hreturn, hcalled, hsame⟩ := factories_return state
    exact ⟨ready, hreturn, hcalled, hsame ▸ hstarting⟩

/-- A `stop` that returns at once has found no server. -/
theorem hasServer_stop (hcalls : state.stop.calls = []) :
    state.stop.simulator.hasServer = false := by
  rw [Lifecycle.stop, Lifecycle.stopServer] at hcalls ⊢
  split
  · rename_i htasks
    rw [if_pos htasks] at hcalls
    split
    · rename_i hserver
      simp [if_pos hserver, Lifecycle.suspend] at hcalls
    · rename_i hserver
      simpa using hserver
  · rename_i htasks
    simp [if_neg htasks, Lifecycle.suspend] at hcalls

@[simp] theorem factoryCalls_stop :
    state.stop.simulator.factoryCalls = state.simulator.factoryCalls := by
  rw [Lifecycle.stop, Lifecycle.stopServer]
  split
  · split <;> rfl
  · exact (Tasks.fades_foldl_cancel state.simulator _).factoryCalls

theorem not_starting_stop (hstarting : .starting ∉ state.calls) : .starting ∉ state.stop.calls := by
  rw [Lifecycle.stop, Lifecycle.stopServer]
  split
  · split
    · simpa [Lifecycle.suspend] using hstarting
    · exact hstarting
  · simpa [Lifecycle.suspend] using hstarting

/-- One more `stop`, once the tasks end, leaves nothing behind. -/
theorem Inv.stoppable (h : state.Inv) :
    ∃ final, Transition.Reaches Lifecycle.step Winding state final ∧ final.calls = [] ∧
      final.Stopped := by
  obtain ⟨ready, hready, hcalled, hstarting⟩ := h.start_returns
  have hstop : Transition.Reaches Lifecycle.step Winding state ready.stop :=
    hready.tail .stop hstarting (step_of_not_called hcalled .stop)
  obtain ⟨simulator, hends, hfades, hopen⟩ := all_tasks_end (factoryCalls_stop.trans hcalled)
  have hended := hstop.trans hends
  obtain ⟨final, hreturn, hcalls, hlast⟩ := pending_calls_return (h.winding hended) hopen
    (not_starting_stop hstarting) fun hnil => hfades.hasServer.trans (hasServer_stop hnil)
  have hfinal := hended.trans hreturn
  exact ⟨final, hfinal, hcalls, (h.winding hfinal).stopped hlast⟩

instance (state : Lifecycle φ) : DecidablePred state.Orderly
  | .addTask _ => inferInstanceAs (Decidable ((∀ call ∈ state.calls, call = .starting) ∧
      ∀ call ∈ state.simulator.factoryCalls, call.ofStart = false))
  | .factoryReturns => .isTrue trivial
  | .factoryRaises => .isFalse id
  | .start => inferInstanceAs (Decidable (state.calls = []))
  | .stop => inferInstanceAs (Decidable (.starting ∉ state.calls))
  | .resume _ => .isTrue trivial
  | .cutOff _ _ => .isTrue trivial
  | .taskEnds _ _ => .isTrue trivial

/-- Two `start`s that overlap open two servers, and `stop` closes one of them. -/
example : (Transition.run step (fun _ _ => True) (init : Lifecycle Nat)
    [.start, .start, .resume 0, .resume 0, .stop, .resume 0]).map Lifecycle.servers =
      some [true, false] := by decide

/-- A `stop` cut off while it waits for the server leaves one set that does not listen, and `start`
opens none. -/
example : (Transition.run step Orderly (init : Lifecycle Nat)
    [.start, .resume 0, .stop, .cutOff 0 false, .start]).map Lifecycle.servers = some [false] := by
  decide

end Lifecycle

end ClearModbus.ModbusSimulator
