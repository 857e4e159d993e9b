import ClearModbus.SimulatorTasks

/-!
# Do background tasks outlive the simulator?

`add_task` starts a task whenever the server is set, and it still is while `stop` waits for the
cancelled tasks and for the server to close. A task added then is never cancelled. A task that a
factory adds while `start` calls it is started twice, as the loop over the factories comes to its
factory later. When no task is added at these moments, the tasks are those of the factories until
they are all done.
-/

namespace ClearModbus.ModbusSimulator

variable {φ : Type}

def Phase.Stopping : Phase → Prop
  | .gathering _ => True
  | .closing => True
  | _ => False

/-- No task is added while `stop` is suspended, or by a factory that `start` calls, and a factory
that is called returns. -/
def AddedApart (state : Tasks φ) : TaskAction φ → Prop
  | .addTask _ => ¬ state.phase.Stopping ∧ ∀ call ∈ state.factoryCalls, call.ofStart = false
  | .factoryRaises => False
  | _ => True

instance : DecidablePred Phase.Stopping
  | .gathering _ => .isTrue trivial
  | .closing => .isTrue trivial
  | .new => .isFalse id
  | .starting => .isFalse id
  | .running => .isFalse id
  | .stopped => .isFalse id

instance (state : Tasks φ) : DecidablePred (AddedApart state)
  | .addTask _ => inferInstanceAs (Decidable
      (¬ state.phase.Stopping ∧ ∀ call ∈ state.factoryCalls, call.ofStart = false))
  | .factoryReturns => .isTrue trivial
  | .factoryRaises => .isFalse id
  | .start => .isTrue trivial
  | .serverStarted => .isTrue trivial
  | .stop => .isTrue trivial
  | .gathered => .isTrue trivial
  | .serverClosed => .isTrue trivial
  | .taskEnds _ _ => .isTrue trivial

namespace Tasks

variable {state next : Tasks φ} {started : List φ} {position : Nat}

/-- One task for every factory while the simulator runs, and none is left when it has stopped. -/
structure Contained (state : Tasks φ) : Prop where
  running : state.phase = .running → state.factoryCalls = [] →
    (state.created.map Prod.fst).Perm state.taskFactories ∧
      state.tasks = List.range state.created.length
  stopped : state.phase = .stopped →
    (∀ task ∈ state.created, task.2.done = true) ∧ state.tasks = []

/-- The factories are those of the tasks started and the ones being called: by `add_task`, in any
order, or by `_start_tasks` at a position of the list. -/
inductive Covers (state : Tasks φ) (started : List φ) : Prop where
  | adding (hcalls : ∀ call ∈ state.factoryCalls, call.ofStart = false)
      (hfactories : (started ++ state.factoryCalls.map FactoryCall.taskFactory).Perm
        state.taskFactories)
  | starting (position : Nat) (taskFactory : φ)
      (hcalls : state.factoryCalls = [.starting position taskFactory])
      (hposition : state.taskFactories[position]? = some taskFactory)
      (hfactories : started = state.taskFactories.take position)

structure Creates (state next : Tasks φ) (taskFactory : φ) : Prop where
  created : next.created = state.created ++ [(taskFactory, .running)]
  tasks : next.tasks = state.tasks ++ [state.created.length]
  taskFactories : next.taskFactories = state.taskFactories
  hasServer : next.hasServer = state.hasServer
  phase : next.phase = state.phase

theorem Covers.perm (h : state.Covers started) (hcalls : state.factoryCalls = []) :
    started.Perm state.taskFactories := by
  cases h with
  | adding _ hfactories => simpa [hcalls] using hfactories
  | starting position taskFactory hcall => cases hcalls.symm.trans hcall

theorem startTasksFrom_fields (state : Tasks φ) (position : Nat) :
    (state.startTasksFrom position).created = state.created ∧
      (state.startTasksFrom position).tasks = state.tasks ∧
      (state.startTasksFrom position).taskFactories = state.taskFactories ∧
      (state.startTasksFrom position).hasServer = state.hasServer ∧
      (state.startTasksFrom position).phase = state.phase := by
  rw [startTasksFrom]
  split <;> exact ⟨rfl, rfl, rfl, rfl, rfl⟩

theorem covers_startTasksFrom (hcalls : state.factoryCalls = [])
    (hstarted : started = state.taskFactories.take position) :
    (state.startTasksFrom position).Covers started := by
  rw [startTasksFrom]
  split
  · rename_i taskFactory hposition
    have hcall : (state.callFactory (.starting position taskFactory)).factoryCalls =
        [.starting position taskFactory] := by
      rw [callFactory, hcalls]
    exact .starting position taskFactory hcall hposition hstarted
  · rename_i hposition
    have hall : started = state.taskFactories := by
      rw [hstarted, List.take_of_length_le (List.getElem?_eq_none_iff.mp hposition)]
    exact .adding (by simp [hcalls]) (by simp [hcalls, hall])

theorem covers_startTasks (hcalls : state.factoryCalls = []) (htasks : state.tasks = []) :
    state.startTasks.Covers [] := by
  rw [startTasks, if_pos htasks]
  exact covers_startTasksFrom hcalls rfl

theorem Covers.addTask (h : state.Covers started) (hserver : state.hasServer = true)
    (hapart : ∀ call ∈ state.factoryCalls, call.ofStart = false) (taskFactory : φ) :
    (state.addTask taskFactory).Covers started := by
  rw [Tasks.addTask, if_pos hserver]
  cases h with
  | adding _ hfactories =>
      refine .adding (List.forall_mem_cons.mpr ⟨rfl, hapart⟩) ?_
      rw [callFactory, List.map_cons]
      exact List.perm_middle.trans ((hfactories.cons taskFactory).trans
        (List.perm_append_singleton taskFactory state.taskFactories).symm)
  | starting position called hcall =>
      have hcalled := hapart _ (hcall ▸ List.mem_singleton.mpr rfl)
      cases hcalled

theorem Covers.congr (h : state.Covers started) (hcalls : next.factoryCalls = state.factoryCalls)
    (hfactories : next.taskFactories = state.taskFactories) : next.Covers started := by
  cases h with
  | adding hapart hall => exact .adding (hcalls ▸ hapart) (by rwa [hcalls, hfactories])
  | starting position taskFactory hcall hposition hstarted =>
      exact .starting position taskFactory (hcalls.trans hcall) (hfactories ▸ hposition)
        (hfactories ▸ hstarted)

/-- A factory that returns gets its task, and `_start_tasks` goes on to the next one. -/
theorem creates_of_factoryReturns (h : state.factoryReturns = some next) :
    ∃ taskFactory, state.Creates next taskFactory ∧
      ∀ started, state.Covers started → next.Covers (started ++ [taskFactory]) := by
  rw [factoryReturns] at h
  split at h
  · cases h
  · rename_i taskFactory factoryCalls hcalls
    cases h
    refine ⟨taskFactory, ⟨rfl, rfl, rfl, rfl, rfl⟩, fun started hcovers => ?_⟩
    cases hcovers with
    | adding hapart hfactories =>
        rw [hcalls] at hapart hfactories
        refine .adding (List.forall_mem_cons.mp hapart).2 ?_
        rw [List.append_assoc]
        exact hfactories
    | starting position called hcall => cases hcalls.symm.trans hcall
  · rename_i position taskFactory factoryCalls hcalls
    cases h
    obtain ⟨hcreated, htasks, hfactories, hserver, hphase⟩ := startTasksFrom_fields
      (({ state with factoryCalls } : Tasks φ).createTask taskFactory) (position + 1)
    refine ⟨taskFactory, ⟨hcreated, htasks, hfactories, hserver, hphase⟩,
      fun started hcovers => ?_⟩
    cases hcovers with
    | adding hapart =>
        rw [hcalls] at hapart
        exact absurd (List.forall_mem_cons.mp hapart).1 nofun
    | starting position called hcall hposition hstarted =>
        cases hcalls.symm.trans hcall
        have htake : started ++ [taskFactory] = state.taskFactories.take (position + 1) := by
          rw [hstarted, List.take_add_one, hposition]
          rfl
        exact covers_startTasksFrom rfl htake

structure Listed (state : Tasks φ) : Prop where
  hasServer : state.hasServer = true
  tasks : state.tasks = List.range state.created.length
  covers : state.Covers (state.created.map Prod.fst)

structure Unstarted (state : Tasks φ) : Prop where
  hasServer : state.hasServer = false
  tasks : state.tasks = []
  created : state.created = []

structure Ended (state : Tasks φ) : Prop where
  tasks : state.tasks = []
  done : ∀ task ∈ state.created, task.2.done = true

def Inv (state : Tasks φ) : Prop :=
  match state.phase with
  | .new => state.factoryCalls = [] ∧ state.Unstarted
  | .starting => state.factoryCalls = [] ∧ state.Unstarted
  | .running => state.Listed
  | .gathering captured =>
      state.factoryCalls = [] ∧ state.hasServer = true ∧ captured = List.range state.created.length
  | .closing => state.factoryCalls = [] ∧ state.hasServer = true ∧ state.Ended
  | .stopped => state.factoryCalls = [] ∧ state.hasServer = false ∧ state.Ended

theorem Inv.contained (h : state.Inv) : state.Contained := by
  constructor
  · intro hphase hcalls
    rw [Inv, hphase] at h
    exact ⟨h.covers.perm hcalls, h.tasks⟩
  · intro hphase
    rw [Inv, hphase] at h
    exact ⟨h.2.2.done, h.2.2.tasks⟩

theorem Listed.addTask (h : state.Listed)
    (hapart : ∀ call ∈ state.factoryCalls, call.ofStart = false) (taskFactory : φ) :
    (state.addTask taskFactory).Listed := by
  have hcovers := h.covers.addTask h.hasServer hapart taskFactory
  rw [Tasks.addTask, if_pos h.hasServer] at hcovers ⊢
  exact ⟨h.hasServer, h.tasks, hcovers⟩

theorem Listed.factoryReturns (h : state.Listed) (hstep : state.factoryReturns = some next) :
    next.Listed := by
  obtain ⟨taskFactory, hcreates, hcovers⟩ := creates_of_factoryReturns hstep
  refine ⟨hcreates.hasServer.trans h.hasServer, ?_, ?_⟩
  · rw [hcreates.tasks, hcreates.created, h.tasks, List.length_append, List.length_singleton,
      List.range_succ]
  · rw [hcreates.created, List.map_append]
    exact hcovers _ h.covers

theorem listed_startTasks (hcalls : state.factoryCalls = []) (hserver : state.hasServer = true)
    (htasks : state.tasks = []) (hcreated : state.created = []) : state.startTasks.Listed := by
  have hcovers := covers_startTasks hcalls htasks
  rw [startTasks, if_pos htasks] at hcovers ⊢
  obtain ⟨hsame, hlisted, -, hset, -⟩ := startTasksFrom_fields state 0
  refine ⟨hset.trans hserver, ?_, ?_⟩
  · rw [hlisted, hsame, htasks, hcreated]
    rfl
  · rw [hsame, hcreated]
    exact hcovers

/-- Without a server a factory is only registered. -/
theorem addTask_of_no_server (hserver : state.hasServer = false) (taskFactory : φ) :
    state.addTask taskFactory =
      { state with taskFactories := state.taskFactories ++ [taskFactory] } := by
  rw [addTask, if_neg (by simp [hserver])]

@[simp] theorem phase_addTask (taskFactory : φ) :
    (state.addTask taskFactory).phase = state.phase := by
  rw [Tasks.addTask]
  split <;> rfl

@[simp] theorem length_created_setStatus (change : TaskStatus → TaskStatus) (task : Nat) :
    (state.setStatus change task).created.length = state.created.length :=
  List.length_modify ..

theorem length_created_foldl_setStatus (change : TaskStatus → TaskStatus) (tasks : List Nat) :
    (tasks.foldl (setStatus · change) state).created.length = state.created.length := by
  induction tasks generalizing state with
  | nil => rfl
  | cons task tasks ih => rw [List.foldl_cons, ih, length_created_setStatus]

theorem hasServer_foldl_setStatus (change : TaskStatus → TaskStatus) (tasks : List Nat) :
    (tasks.foldl (setStatus · change) state).hasServer = state.hasServer := by
  induction tasks generalizing state with
  | nil => rfl
  | cons task tasks ih => rw [List.foldl_cons, ih, setStatus]

theorem factoryCalls_foldl_setStatus (change : TaskStatus → TaskStatus) (tasks : List Nat) :
    (tasks.foldl (setStatus · change) state).factoryCalls = state.factoryCalls := by
  induction tasks generalizing state with
  | nil => rfl
  | cons task tasks ih => rw [List.foldl_cons, ih, setStatus]

theorem map_fst_created_setStatus (change : TaskStatus → TaskStatus) (task : Nat) :
    (state.setStatus change task).created.map Prod.fst = state.created.map Prod.fst := by
  apply List.ext_getElem?
  intro position
  rw [setStatus, List.getElem?_map, List.getElem?_map, List.getElem?_modify]
  by_cases hposition : task = position
  · cases hentry : state.created[position]? <;> simp [hposition]
  · simp [hposition]

theorem not_done_of_status {task : Nat}
    (h : (state.status task).any (fun status => !status.done) = true) :
    ∃ entry ∈ state.created, entry.2.done = false := by
  rw [Option.any_eq_true] at h
  obtain ⟨status, hstatus, hdone⟩ := h
  obtain ⟨entry, hentry, rfl⟩ := Option.map_eq_some_iff.mp hstatus
  exact ⟨entry, List.mem_of_getElem? hentry, by simpa using hdone⟩

theorem done_of_all
    (h : (List.range state.created.length).all
      (fun task => (state.status task).any TaskStatus.done) = true) :
    ∀ task ∈ state.created, task.2.done = true := by
  intro entry hentry
  obtain ⟨task, htask, rfl⟩ := List.getElem_of_mem hentry
  have hany := List.all_eq_true.mp h task (List.mem_range.mpr htask)
  rw [status, List.getElem?_eq_getElem htask] at hany
  exact hany

theorem inv_stopServer (hcalls : state.factoryCalls = []) (hserver : state.hasServer = true)
    (hended : state.Ended) : state.stopServer.Inv := by
  rw [stopServer, if_pos hserver]
  exact ⟨hcalls, hserver, hended.tasks, hended.done⟩

theorem inv_stop (hcalls : state.factoryCalls = []) (h : state.Listed) : state.stop.Inv := by
  rw [stop]
  split
  · rename_i htasks
    apply inv_stopServer hcalls h.hasServer
    refine ⟨htasks, ?_⟩
    have hcreated : state.created = [] := by
      have hrange := h.tasks.symm.trans htasks
      simpa using hrange
    rw [hcreated]
    simp
  · refine ⟨?_, ?_, ?_⟩
    · exact (factoryCalls_foldl_setStatus _ _).trans hcalls
    · exact (hasServer_foldl_setStatus _ _).trans h.hasServer
    · rw [h.tasks]
      simp only [length_created_foldl_setStatus]

theorem inv_addTask (hinv : state.Inv) (hphase : ¬ state.phase.Stopping)
    (hapart : ∀ call ∈ state.factoryCalls, call.ofStart = false) (taskFactory : φ) :
    (state.addTask taskFactory).Inv := by
  unfold Inv at hinv ⊢
  rw [phase_addTask]
  cases h : state.phase with
  | running =>
      rw [h] at hinv
      exact hinv.addTask hapart taskFactory
  | gathering captured => exact absurd trivial (by rwa [h] at hphase)
  | closing => exact absurd trivial (by rwa [h] at hphase)
  | new =>
      have hnew : state.factoryCalls = [] ∧ state.Unstarted := by rwa [h] at hinv
      rw [addTask_of_no_server hnew.2.hasServer]
      exact ⟨hnew.1, hnew.2.hasServer, hnew.2.tasks, hnew.2.created⟩
  | starting =>
      have hstarting : state.factoryCalls = [] ∧ state.Unstarted := by rwa [h] at hinv
      rw [addTask_of_no_server hstarting.2.hasServer]
      exact ⟨hstarting.1, hstarting.2.hasServer, hstarting.2.tasks, hstarting.2.created⟩
  | stopped =>
      have hstopped : state.factoryCalls = [] ∧ state.hasServer = false ∧ state.Ended := by
        rwa [h] at hinv
      rw [addTask_of_no_server hstopped.2.1]
      exact ⟨hstopped.1, hstopped.2.1, hstopped.2.2.tasks, hstopped.2.2.done⟩

theorem no_factoryCalls_or_running (h : state.Inv) :
    state.factoryCalls = [] ∨ state.phase = .running := by
  unfold Inv at h
  split at h
  case h_3 => exact .inr ‹_›
  all_goals exact .inl h.1

theorem inv_factoryReturns (hinv : state.Inv) (h : state.factoryReturns = some next) :
    next.Inv := by
  rcases no_factoryCalls_or_running hinv with hcalls | hphase
  · rw [factoryReturns, hcalls] at h
    cases h
  · rw [Inv, hphase] at hinv
    obtain ⟨taskFactory, hcreates, -⟩ := creates_of_factoryReturns h
    rw [Inv, hcreates.phase, hphase]
    exact hinv.factoryReturns h

theorem inv_taskEnds (hinv : state.Inv) (change : TaskStatus → TaskStatus) {task : Nat}
    (hopen : ∃ entry ∈ state.created, entry.2.done = false) :
      (state.setStatus change task).Inv := by
  obtain ⟨entry, hmem, hdone⟩ := hopen
  have hcreated : state.created ≠ [] := List.ne_nil_of_mem hmem
  have hended : ¬ state.Ended := fun hended => by simp [hended.done entry hmem] at hdone
  unfold Inv at hinv ⊢
  rw [show (state.setStatus change task).phase = state.phase from rfl]
  cases h : state.phase with
  | new =>
      have hunstarted : state.factoryCalls = [] ∧ state.Unstarted := by rwa [h] at hinv
      exact absurd hunstarted.2.created hcreated
  | starting =>
      have hunstarted : state.factoryCalls = [] ∧ state.Unstarted := by rwa [h] at hinv
      exact absurd hunstarted.2.created hcreated
  | running =>
      have hlisted : state.Listed := by rwa [h] at hinv
      refine ⟨hlisted.hasServer, ?_, ?_⟩
      · rw [length_created_setStatus]
        exact hlisted.tasks
      · rw [map_fst_created_setStatus]
        exact hlisted.covers.congr rfl rfl
  | gathering captured =>
      rw [h] at hinv
      dsimp only at hinv ⊢
      rw [length_created_setStatus]
      exact hinv
  | closing =>
      have hclosing : state.factoryCalls = [] ∧ state.hasServer = true ∧ state.Ended := by
        rwa [h] at hinv
      exact absurd hclosing.2.2 hended
  | stopped =>
      have hstopped : state.factoryCalls = [] ∧ state.hasServer = false ∧ state.Ended := by
        rwa [h] at hinv
      exact absurd hstopped.2.2 hended

theorem inv_perform (hinv : state.Inv) {action : TaskAction φ} (hguard : AddedApart state action)
    (hcalls : state.factoryCalls = [] ∨ action.ofFactory) (h : state.perform action = some next) :
    next.Inv := by
  cases action with
  | addTask taskFactory =>
      cases h
      exact inv_addTask hinv hguard.1 hguard.2 taskFactory
  | factoryReturns => exact inv_factoryReturns hinv h
  | factoryRaises => exact hguard.elim
  | start =>
      rw [perform] at h
      split at h
      · rename_i hphase
        rw [Inv, hphase] at hinv
        rw [if_neg (by simp [hinv.2.hasServer])] at h
        cases h
        exact ⟨hinv.1, hinv.2.hasServer, hinv.2.tasks, hinv.2.created⟩
      · cases h
  | serverStarted =>
      rw [perform] at h
      split at h
      · rename_i hphase
        rw [Inv, hphase] at hinv
        cases h
        have hlisted : ({ state with hasServer := true } : Tasks φ).startTasks.Listed :=
          listed_startTasks hinv.1 rfl hinv.2.tasks hinv.2.created
        exact ⟨hlisted.hasServer, hlisted.tasks, hlisted.covers.congr rfl rfl⟩
      · cases h
  | stop =>
      rw [perform] at h
      split at h
      · rename_i hphase
        rw [Inv, hphase] at hinv
        cases h
        exact inv_stop (hcalls.resolve_right nofun) hinv
      · cases h
  | gathered =>
      rw [perform] at h
      split at h
      · rename_i captured hphase
        rw [Inv, hphase] at hinv
        split at h
        · rename_i hdone
          cases h
          rw [hinv.2.2] at hdone
          exact inv_stopServer hinv.1 hinv.2.1 ⟨rfl, done_of_all hdone⟩
        · cases h
      · cases h
  | serverClosed =>
      rw [perform] at h
      split at h
      · rename_i hphase
        rw [Inv, hphase] at hinv
        cases h
        exact ⟨hinv.1, rfl, hinv.2.2.tasks, hinv.2.2.done⟩
      · cases h
  | taskEnds task cancelled =>
      rw [perform] at h
      split at h
      · rename_i hopen
        cases h
        exact inv_taskEnds hinv _ (not_done_of_status hopen)
      · cases h

theorem inv_step (hinv : state.Inv) {action : TaskAction φ} (hguard : AddedApart state action)
    (h : state.step action = some next) : next.Inv := by
  rw [step] at h
  split at h
  · rename_i hcalls
    exact inv_perform hinv hguard hcalls h
  · cases h

/-- **Tasks end with the simulator** in every run in which no task is added while `stop` waits, or
by a factory that `start` calls. -/
theorem contained_of_reaches (φ : Type) (state : Tasks φ)
    (h : Transition.Reaches step AddedApart init state) : state.Contained :=
  have hinit : (init : Tasks φ).Inv := ⟨rfl, rfl, rfl, rfl⟩
  (h.invariant hinit fun _ _ _ hinv hguard hstep => inv_step hinv hguard hstep).contained

/-- A task added before the start, and one while it runs whose factory adds another one, all over
after the stop. -/
theorem contained_of_reaches_two_tasks :
    ∃ state : Tasks Nat, state.phase = .stopped ∧ state.taskFactories = [0, 1, 2] ∧
      state.created = [(0, .cancelled), (2, .finished), (1, .cancelled)] ∧ state.Contained := by
  have hrun : Transition.run step AddedApart (init : Tasks Nat)
      [.addTask 0, .start, .serverStarted, .factoryReturns, .addTask 1, .addTask 2, .factoryReturns,
        .factoryReturns, .stop, .taskEnds 0 true, .taskEnds 1 false, .taskEnds 2 true, .gathered,
        .serverClosed] =
      some ⟨[0, 1, 2], [], false, [(0, .cancelled), (2, .finished), (1, .cancelled)], [],
        .stopped⟩ := by decide
  exact ⟨_, rfl, rfl, rfl, contained_of_reaches Nat _ (Transition.reaches_of_run .refl hrun)⟩

/-- A task added while `stop` gathers the others is cleared from the list and goes on running. -/
theorem not_contained_added_while_stopping :
    ¬ ∀ state : Tasks Nat, Transition.Reaches step (fun _ _ => True) init state →
      state.Contained := by
  intro hall
  have hrun : Transition.run step (fun _ _ => True) (init : Tasks Nat)
      [.addTask 0, .start, .serverStarted, .factoryReturns, .stop, .addTask 1, .factoryReturns,
        .taskEnds 0 true, .gathered, .serverClosed] =
      some ⟨[0, 1], [], false, [(0, .cancelled), (1, .running)], [], .stopped⟩ := by decide
  have hcontained := hall _ (Transition.reaches_of_run .refl hrun)
  exact Bool.false_ne_true ((hcontained.stopped rfl).1 (1, .running) (by decide))

/-- A factory that `start` calls adds another one, which gets two tasks. -/
example : (Transition.run step (fun _ _ => True) (init : Tasks Nat)
    [.addTask 0, .start, .serverStarted, .addTask 1, .factoryReturns, .factoryReturns,
      .factoryReturns]).map (fun state => (state.taskFactories, state.created.map Prod.fst)) =
      some ([0, 1], [1, 0, 1]) := by decide

end Tasks

end ClearModbus.ModbusSimulator
