import Caraka.State
import Caraka.Foundation.Transition

/-! The services of one process that `complete_initialize` starts, and the tables of peer senders
that they and the managed state hold. -/

namespace Caraka

open Foundation

structure Task where
  senders : Nat
  startedBy : Nat
  deriving DecidableEq

structure Process where
  /-- How often the managed state was set. -/
  initialisations : Nat
  allocated : Nat
  tables : Nat → PeerSenders
  /-- The table of the managed state, which the commands use. -/
  managed : Option Nat
  /-- The tasks of `start_tcp_server` that have not tried to bind yet. -/
  starting : List Task
  listener : Option Task
  /-- The tasks that launch Tor. -/
  bootstrapping : List Task
  acceptLoops : List Task
  /-- The connections accepted whose first packet is still awaited. -/
  connections : List Task
  /-- The table each sender was inserted into, and the managed one at that time. -/
  inserted : List (Nat × Option Nat)

/-- How the steps of `complete_initialize` that can fail end. -/
structure InitEnv where
  openDb : Except String Unit
  nodeReady : Except String Unit
  torDataDir : Except String Unit

namespace Process

def start : Process where
  initialisations := 0
  allocated := 0
  tables := fun _ => AssocMap.empty
  managed := none
  starting := []
  listener := none
  bootstrapping := []
  acceptLoops := []
  connections := []
  inserted := []

/-- `complete_initialize`. The error of a late step comes after the managed state is replaced. -/
def completeInitialize (process : Process) (env : InitEnv) : Except String Unit × Process :=
  match env.openDb with
  | .error e => (.error e, process)
  | .ok () =>
    let task : Task := ⟨process.allocated, process.initialisations + 1⟩
    let started := { process with
      initialisations := process.initialisations + 1
      allocated := process.allocated + 1
      tables := Function.update process.tables process.allocated AssocMap.empty
      managed := some process.allocated
      starting := process.starting ++ [task] }
    match env.nodeReady with
    | .error e => (.error e, started)
    | .ok () =>
      match env.torDataDir with
      | .error e => (.error e, started)
      | .ok () => (.ok (), { started with bootstrapping := started.bootstrapping ++ [task] })

def exposed (process : Process) : Option PeerSenders := process.managed.map process.tables

end Process

inductive ProcessEvent where
  /-- A `create_vault` or `unlock_vault` whose vault is written or opened. -/
  | initialise (env : InitEnv)
  /-- A starting TCP server binds its port, which may be taken by another process. -/
  | bind (index : Nat) (free : Bool)
  | launchTor (index : Nat) (ready : Bool)
  | acceptTcp
  | acceptTor (loop : Nat)
  /-- The first packet of an accepted connection arrives and its sender is inserted. -/
  | insert (index : Nat) (peerNodeId : String)
  | closeEarly (index : Nat)

namespace Process

def step (process : Process) : ProcessEvent → Process
  | .initialise env => (process.completeInitialize env).2
  | .bind index free =>
    match process.starting[index]? with
    | none => process
    | some task =>
      { process with
        starting := process.starting.eraseIdx index
        listener :=
          match process.listener with
          | some bound => some bound
          | none => if free then some task else none }
  | .launchTor index ready =>
    match process.bootstrapping[index]? with
    | none => process
    | some task =>
      { process with
        bootstrapping := process.bootstrapping.eraseIdx index
        acceptLoops := if ready then process.acceptLoops ++ [task] else process.acceptLoops }
  | .acceptTcp => { process with connections := process.connections ++ process.listener.toList }
  | .acceptTor loop =>
    { process with connections := process.connections ++ process.acceptLoops[loop]?.toList }
  | .insert index peerNodeId =>
    match process.connections[index]? with
    | none => process
    | some task =>
      { process with
        connections := process.connections.eraseIdx index
        tables := Function.update process.tables task.senders
          ((process.tables task.senders).insert peerNodeId Channel.new)
        inserted := process.inserted ++ [(task.senders, process.managed)] }
  | .closeEarly index => { process with connections := process.connections.eraseIdx index }

/-- Every sender went into the table that the managed state exposed when it was inserted. -/
def Shared (process : Process) : Prop :=
  ∀ entry ∈ process.inserted, entry.2 = some entry.1

/-- The service that accepted the connection was started by the latest initialisation. -/
def Current (process : Process) : ProcessEvent → Prop
  | .insert index _ =>
    ∀ task, process.connections[index]? = some task → task.startedBy = process.initialisations
  | .initialise .. | .bind .. | .launchTor .. | .acceptTcp | .acceptTor .. | .closeEarly .. => True

def tasks (process : Process) : List Task :=
  process.starting ++ process.listener.toList ++ process.bootstrapping ++ process.acceptLoops ++
    process.connections

structure Coherent (process : Process) : Prop where
  managed_lt : ∀ id, process.managed = some id → id < process.allocated
  senders_lt : ∀ task ∈ process.tasks, task.senders < process.allocated
  startedBy_le : ∀ task ∈ process.tasks, task.startedBy ≤ process.initialisations
  shared_iff : ∀ task ∈ process.tasks,
    process.managed = some task.senders ↔ task.startedBy = process.initialisations

theorem coherent_start : start.Coherent where
  managed_lt _ same := by cases same
  senders_lt _ member := by cases member
  startedBy_le _ member := by cases member
  shared_iff _ member := by cases member

theorem mem_tasks {process : Process} {task : Task} : task ∈ process.tasks ↔
    task ∈ process.starting ∨ process.listener = some task ∨ task ∈ process.bootstrapping ∨
      task ∈ process.acceptLoops ∨ task ∈ process.connections := by
  simp only [tasks, List.mem_append, Option.mem_toList, or_assoc]

section Members

variable (process : Process) {task : Task}

theorem mem_of_starting (member : task ∈ process.starting) : task ∈ process.tasks :=
  mem_tasks.mpr (.inl member)

theorem mem_of_listener (member : task ∈ process.listener) : task ∈ process.tasks :=
  mem_tasks.mpr (.inr (.inl member))

theorem mem_of_bootstrapping (member : task ∈ process.bootstrapping) : task ∈ process.tasks :=
  mem_tasks.mpr (.inr (.inr (.inl member)))

theorem mem_of_acceptLoops (member : task ∈ process.acceptLoops) : task ∈ process.tasks :=
  mem_tasks.mpr (.inr (.inr (.inr (.inl member))))

theorem mem_of_connections (member : task ∈ process.connections) : task ∈ process.tasks :=
  mem_tasks.mpr (.inr (.inr (.inr (.inr member))))

end Members

variable {process : Process}

theorem forall_tasks {good : Task → Prop} (starting : ∀ task ∈ process.starting, good task)
    (listener : ∀ task ∈ process.listener, good task)
    (bootstrapping : ∀ task ∈ process.bootstrapping, good task)
    (acceptLoops : ∀ task ∈ process.acceptLoops, good task)
    (connections : ∀ task ∈ process.connections, good task) :
    ∀ task ∈ process.tasks, good task := by
  intro task member
  rcases mem_tasks.mp member with member | member | member | member | member
  · exact starting task member
  · exact listener task member
  · exact bootstrapping task member
  · exact acceptLoops task member
  · exact connections task member

theorem frame_step {event : ProcessEvent} (other : ∀ env, event ≠ .initialise env) :
    (process.step event).managed = process.managed ∧
      (process.step event).allocated = process.allocated ∧
      (process.step event).initialisations = process.initialisations ∧
      ∀ task ∈ (process.step event).tasks, task ∈ process.tasks := by
  cases event with
  | initialise env => exact absurd rfl (other env)
  | bind index free =>
      rw [step]
      cases found : process.starting[index]? with
      | none => exact ⟨rfl, rfl, rfl, fun task member => member⟩
      | some first =>
          refine ⟨rfl, rfl, rfl, ?_⟩
          apply forall_tasks
          · intro task member
            exact process.mem_of_starting (List.mem_of_mem_eraseIdx member)
          · intro task member
            dsimp only at member
            split at member
            · rename_i bound
              exact process.mem_of_listener (bound.trans member)
            · split at member
              · cases member
                exact process.mem_of_starting (List.mem_of_getElem? found)
              · cases member
          · exact fun _ => process.mem_of_bootstrapping
          · exact fun _ => process.mem_of_acceptLoops
          · exact fun _ => process.mem_of_connections
  | launchTor index ready =>
      rw [step]
      cases found : process.bootstrapping[index]? with
      | none => exact ⟨rfl, rfl, rfl, fun task member => member⟩
      | some first =>
          refine ⟨rfl, rfl, rfl, ?_⟩
          apply forall_tasks
          · exact fun _ => process.mem_of_starting
          · exact fun _ => process.mem_of_listener
          · intro task member
            exact process.mem_of_bootstrapping (List.mem_of_mem_eraseIdx member)
          · intro task member
            dsimp only at member
            split at member
            · rcases List.mem_append.mp member with earlier | now
              · exact process.mem_of_acceptLoops earlier
              · rcases List.mem_singleton.mp now with rfl
                exact process.mem_of_bootstrapping (List.mem_of_getElem? found)
            · exact process.mem_of_acceptLoops member
          · exact fun _ => process.mem_of_connections
  | acceptTcp =>
      refine ⟨rfl, rfl, rfl, ?_⟩
      apply forall_tasks
      · exact fun _ => process.mem_of_starting
      · exact fun _ => process.mem_of_listener
      · exact fun _ => process.mem_of_bootstrapping
      · exact fun _ => process.mem_of_acceptLoops
      · intro task member
        rcases List.mem_append.mp member with earlier | now
        · exact process.mem_of_connections earlier
        · exact process.mem_of_listener (Option.mem_toList.mp now)
  | acceptTor loop =>
      refine ⟨rfl, rfl, rfl, ?_⟩
      apply forall_tasks
      · exact fun _ => process.mem_of_starting
      · exact fun _ => process.mem_of_listener
      · exact fun _ => process.mem_of_bootstrapping
      · exact fun _ => process.mem_of_acceptLoops
      · intro task member
        rcases List.mem_append.mp member with earlier | now
        · exact process.mem_of_connections earlier
        · exact process.mem_of_acceptLoops (List.mem_of_getElem? (Option.mem_toList.mp now))
  | insert index peerNodeId =>
      rw [step]
      cases found : process.connections[index]? with
      | none => exact ⟨rfl, rfl, rfl, fun task member => member⟩
      | some first =>
          refine ⟨rfl, rfl, rfl, ?_⟩
          apply forall_tasks
          · exact fun _ => process.mem_of_starting
          · exact fun _ => process.mem_of_listener
          · exact fun _ => process.mem_of_bootstrapping
          · exact fun _ => process.mem_of_acceptLoops
          · intro task member
            exact process.mem_of_connections (List.mem_of_mem_eraseIdx member)
  | closeEarly index =>
      refine ⟨rfl, rfl, rfl, ?_⟩
      apply forall_tasks
      · exact fun _ => process.mem_of_starting
      · exact fun _ => process.mem_of_listener
      · exact fun _ => process.mem_of_bootstrapping
      · exact fun _ => process.mem_of_acceptLoops
      · intro task member
        exact process.mem_of_connections (List.mem_of_mem_eraseIdx member)

theorem frame_initialise {env : InitEnv} (opened : env.openDb = .ok ()) :
    (process.step (.initialise env)).managed = some process.allocated ∧
      (process.step (.initialise env)).allocated = process.allocated + 1 ∧
      (process.step (.initialise env)).initialisations = process.initialisations + 1 ∧
      (process.step (.initialise env)).inserted = process.inserted ∧
      (process.step (.initialise env)).listener = process.listener ∧
      ∀ task ∈ (process.step (.initialise env)).tasks,
        task ∈ process.tasks ∨ task = ⟨process.allocated, process.initialisations + 1⟩ := by
  rw [step, completeInitialize, opened]
  have spawned {later : Process} (starting : later.starting = process.starting ++
      [⟨process.allocated, process.initialisations + 1⟩])
      (listener : later.listener = process.listener)
      (bootstrapping : ∀ other ∈ later.bootstrapping, other ∈ process.bootstrapping ∨
        other = ⟨process.allocated, process.initialisations + 1⟩)
      (acceptLoops : later.acceptLoops = process.acceptLoops)
      (connections : later.connections = process.connections) :
      ∀ task ∈ later.tasks,
        task ∈ process.tasks ∨ task = ⟨process.allocated, process.initialisations + 1⟩ := by
    apply forall_tasks
    · intro task member
      rw [starting] at member
      rcases List.mem_append.mp member with earlier | now
      · exact .inl (process.mem_of_starting earlier)
      · exact .inr (List.mem_singleton.mp now)
    · intro task member
      rw [listener] at member
      exact .inl (process.mem_of_listener member)
    · exact fun task member => (bootstrapping task member).imp_left process.mem_of_bootstrapping
    · intro task member
      rw [acceptLoops] at member
      exact .inl (process.mem_of_acceptLoops member)
    · intro task member
      rw [connections] at member
      exact .inl (process.mem_of_connections member)
  cases env.nodeReady with
  | error e => exact ⟨rfl, rfl, rfl, rfl, rfl, spawned rfl rfl (fun _ => .inl) rfl rfl⟩
  | ok nothing =>
      cases env.torDataDir with
      | error e => exact ⟨rfl, rfl, rfl, rfl, rfl, spawned rfl rfl (fun _ => .inl) rfl rfl⟩
      | ok nothing =>
          refine ⟨rfl, rfl, rfl, rfl, rfl, spawned rfl rfl ?_ rfl rfl⟩
          intro other member
          exact (List.mem_append.mp member).imp_right List.mem_singleton.mp

theorem step_unopened {env : InitEnv} {e : String} (unopened : env.openDb = .error e) :
    process.step (.initialise env) = process := by
  rw [step, completeInitialize, unopened]

theorem coherent_step (coherent : process.Coherent) (event : ProcessEvent) :
    (process.step event).Coherent := by
  by_cases initialises : ∃ env, event = .initialise env
  · rcases initialises with ⟨env, rfl⟩
    cases opened : env.openDb with
    | error e => rwa [step_unopened opened]
    | ok nothing =>
        rcases @frame_initialise process env opened with
          ⟨managed, allocated, initialisations, -, -, from_tasks⟩
        refine ⟨?_, ?_, ?_, ?_⟩
        · intro id same
          rw [managed, Option.some.injEq] at same
          rw [allocated, ← same]
          exact Nat.lt_succ_self _
        · intro task member
          rw [allocated]
          rcases from_tasks task member with earlier | rfl
          · exact Nat.lt_succ_of_lt (coherent.senders_lt task earlier)
          · exact Nat.lt_succ_self _
        · intro task member
          rw [initialisations]
          rcases from_tasks task member with earlier | rfl
          · exact Nat.le_succ_of_le (coherent.startedBy_le task earlier)
          · exact Nat.le_refl _
        · intro task member
          rw [managed, initialisations, Option.some.injEq]
          rcases from_tasks task member with earlier | rfl
          · have older := coherent.senders_lt task earlier
            have before := coherent.startedBy_le task earlier
            omega
          · exact iff_of_true rfl rfl
  · have other : ∀ env, event ≠ .initialise env := fun env same => initialises ⟨env, same⟩
    rcases @frame_step process event other with ⟨managed, allocated, initialisations, from_tasks⟩
    refine ⟨?_, ?_, ?_, ?_⟩
    · rw [managed, allocated]
      exact coherent.managed_lt
    · intro task member
      rw [allocated]
      exact coherent.senders_lt task (from_tasks task member)
    · intro task member
      rw [initialisations]
      exact coherent.startedBy_le task (from_tasks task member)
    · intro task member
      rw [managed, initialisations]
      exact coherent.shared_iff task (from_tasks task member)

theorem shared_step_iff (coherent : process.Coherent) (shared : process.Shared)
    (event : ProcessEvent) : (process.step event).Shared ↔ process.Current event := by
  have untouched {later : Process} (same : later.inserted = process.inserted) : later.Shared := by
    rwa [Shared, same]
  cases event with
  | initialise env =>
      cases opened : env.openDb with
      | error e => exact iff_of_true (by rwa [step_unopened opened]) trivial
      | ok nothing =>
          exact iff_of_true (untouched (frame_initialise opened).2.2.2.1) trivial
  | bind index free =>
      refine iff_of_true (untouched ?_) trivial
      rw [step]
      split <;> rfl
  | launchTor index ready =>
      refine iff_of_true (untouched ?_) trivial
      rw [step]
      split <;> rfl
  | acceptTcp => exact iff_of_true (untouched rfl) trivial
  | acceptTor loop => exact iff_of_true (untouched rfl) trivial
  | insert index peerNodeId =>
      rw [step, Current]
      cases found : process.connections[index]? with
      | none =>
          refine iff_of_true shared ?_
          intro task none
          cases none
      | some task =>
          have member : task ∈ process.tasks :=
            process.mem_of_connections (List.mem_of_getElem? found)
          simp only [Option.some.injEq, forall_eq']
          rw [← coherent.shared_iff task member]
          constructor
          · intro after
            exact after (task.senders, process.managed)
              (List.mem_append_right _ List.mem_cons_self)
          · intro same entry logged
            rcases List.mem_append.mp logged with earlier | now
            · exact shared entry earlier
            · rcases List.mem_singleton.mp now with rfl
              exact same
  | closeEarly index => exact iff_of_true (untouched rfl) trivial

theorem exposed_insert {index : Nat} {task : Task} (found : process.connections[index]? = some task)
    (peerNodeId : String) : (process.step (.insert index peerNodeId)).exposed =
      if process.managed = some task.senders then
        process.exposed.map fun senders => senders.insert peerNodeId Channel.new
      else process.exposed := by
  simp only [step, found, exposed]
  split
  · rename_i same
    rw [same, Option.map_some, Option.map_some, Option.map_some, Function.update_self]
  · rename_i apart
    cases managed : process.managed with
    | none => rfl
    | some id =>
        rw [Option.map_some, Option.map_some, Function.update_of_ne]
        rintro rfl
        exact apart managed

def Stranded (process : Process) : Prop :=
  ∃ task, process.listener = some task ∧ task.startedBy < process.initialisations

theorem listener_step {task : Task} (bound : process.listener = some task)
    (event : ProcessEvent) : (process.step event).listener = some task := by
  cases event with
  | initialise env =>
      cases opened : env.openDb with
      | error e => rwa [step_unopened opened]
      | ok nothing => rw [(frame_initialise opened).2.2.2.2.1, bound]
  | bind index free =>
      rw [step]
      split
      · exact bound
      · simp only [bound]
  | launchTor index ready =>
      rw [step]
      split <;> exact bound
  | acceptTcp => exact bound
  | acceptTor loop => exact bound
  | insert index peerNodeId =>
      rw [step]
      split <;> exact bound
  | closeEarly index => exact bound

theorem initialisations_step (process : Process) (event : ProcessEvent) :
    process.initialisations ≤ (process.step event).initialisations := by
  by_cases initialises : ∃ env, event = .initialise env
  · rcases initialises with ⟨env, rfl⟩
    cases opened : env.openDb with
    | error e => rw [step_unopened opened]
    | ok nothing =>
        rw [(frame_initialise opened).2.2.1]
        exact Nat.le_succ _
  · exact Nat.le_of_eq (frame_step fun env same => initialises ⟨env, same⟩).2.2.1.symm

theorem stranded_of_initialise (coherent : process.Coherent) {task : Task}
    (bound : process.listener = some task) {env : InitEnv} (opened : env.openDb = .ok ()) :
    (process.step (.initialise env)).Stranded := by
  refine ⟨task, listener_step bound _, ?_⟩
  rw [(frame_initialise opened).2.2.1]
  exact Nat.lt_succ_of_le (coherent.startedBy_le task (process.mem_of_listener bound))

/-- Nothing that happens later brings it back. -/
theorem stranded_run (stranded : process.Stranded) (events : List ProcessEvent) :
    (run step process events).Stranded := by
  apply run_induction _ process events stranded
  rintro state event ⟨task, bound, older⟩
  exact ⟨task, listener_step bound event, Nat.lt_of_lt_of_le older (initialisations_step ..)⟩

end Process

/-- Whatever the order of initialisations, services and connections: in every state each sender
went into the table that the commands used, exactly when each came through a service that the
latest initialisation had started. -/
theorem services_share_table_iff (events : List ProcessEvent) :
    Always Process.step Process.Shared Process.start events ↔
      Along Process.step Process.Current Process.start events := by
  have none : Process.start.Shared := by
    intro entry logged
    cases logged
  exact always_iff_along_of_mem
    (fun _ event (_ : True) coherent => Process.coherent_step coherent event)
    (fun _ event _ coherent shared => Process.shared_step_iff coherent shared event)
    Process.start events (fun _ _ => trivial) Process.coherent_start none

/-- The vault is unlocked, and again after a logout: a connection that comes then is put into the
table of the first unlock. -/
theorem second_unlock_splits_tables :
    ¬ Always Process.step Process.Shared Process.start [
      .initialise ⟨.ok (), .ok (), .ok ()⟩, .bind 0 true,
      .initialise ⟨.ok (), .ok (), .ok ()⟩, .bind 0 true,
      .acceptTcp, .insert 0 "ab"] := by
  intro always
  have last := (always_iff _ _).mp always _ [] (List.append_nil _).symm
  have logged := last (0, some 1) List.mem_cons_self
  cases logged

end Caraka
