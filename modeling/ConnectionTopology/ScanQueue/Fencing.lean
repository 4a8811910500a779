import ConnectionTopology.ScanQueue.TaskEvolution
import ConnectionTopology.ScanQueue.Transactions

/-!
# Fencing and at-most-once settlement

Over every run of whole transactions the worker of a running task is the worker
of its most recent claim, a terminal task is never touched again, and each task
has at most one event that created a scan run.
-/
namespace ConnectionTopology

/-- The task for which an event created a scan run. -/
def runCreator : Call × Reply → Option ℕ
  | (⟨_, _, .persistOutcome _ taskId _⟩, .settled _) => some taskId
  | (⟨_, _, .recordTransactionConflict _ taskId _⟩, .settled _) => some taskId
  | _ => none

/-- The worker and task of a transaction that settles a task. -/
def Transaction.settlement : Transaction → Option (String × ℕ)
  | .persistOutcome workerId taskId _ => some (workerId, taskId)
  | .recordTransactionConflict workerId taskId _ => some (workerId, taskId)
  | .failUnexpectedTask workerId taskId => some (workerId, taskId)
  | _ => none

/-- A worker persists what it collected from the task's own device: `_execute_task`
takes `device_id` from the task row. -/
def Transaction.Faithful (db : Database) : Transaction → Prop
  | .persistOutcome _ taskId outcome => ∀ t ∈ db.scanTasks, t.id = taskId →
      outcome.deviceId = t.deviceId
  | .recordTransactionConflict _ taskId outcome => ∀ t ∈ db.scanTasks, t.id = taskId →
      outcome.deviceId = t.deviceId
  | _ => True

/-! ## What a settlement does -/

/-- The task is running in `db` and terminal in `db'`. -/
def Settles (taskId : ℕ) (db db' : Database) : Prop :=
  (∃ t ∈ db.scanTasks, t.id = taskId ∧ t.status = .running) ∧
    ∃ t ∈ db'.scanTasks, t.id = taskId ∧ t.status.isTerminal

theorem settleTask_settles {db : Database} {task : ScanTask} (htask : task ∈ db.scanTasks)
    {status : ScanTaskStatus} (hstatus : status.isTerminal) {f : ScanTask → ScanTask}
    (hf : ∀ t, (f t).id = t.id) (wall : Timestamp) :
    ∃ t ∈ (settleTask task.id status f wall db).scanTasks, t.id = task.id ∧ t.status.isTerminal := by
  refine ⟨{ (f task).releaseLease with status := status }, ?_, hf task, hstatus⟩
  simp only [settleTask, refreshScanBatches_scanTasks, moveTask_scanTasks, List.mem_map]
  exact ⟨task, htask, by simp⟩

theorem settledStatus_isTerminal (outcome : ScanOutcome) :
    (settledStatus outcome).isTerminal := by
  unfold settledStatus
  split_ifs <;> rfl

/-- Persisting either finds no live lease, or the device is gone, or settles the
held task and creates one run. -/
theorem persistOutcome_cases (workerId : String) (taskId : ℕ) (outcome : ScanOutcome)
    (now wall : Timestamp) {db : Database} (h : TasksOk db) :
    persistOutcome workerId taskId outcome now wall db = .error (.taskLeaseLost taskId) ∨
    ∃ task, heldTask workerId taskId now db = some task ∧
      ((persistOutcome workerId taskId outcome now wall db =
          .error (.deviceNotFound outcome.deviceId) ∧
          outcome.deviceId ∉ db.devices.map (·.id)) ∨
        ∃ done db' run, persistOutcome workerId taskId outcome now wall db = .ok (done, db') ∧
          Evolves unclaimed [run] db db' ∧ Settles taskId db db') := by
  unfold persistOutcome
  cases hheld : heldTask workerId taskId now db with
  | none => exact Or.inl rfl
  | some task =>
    obtain ⟨hmem, rfl, hrunning, -⟩ := heldTask_spec hheld
    refine Or.inr ⟨task, rfl, ?_⟩
    by_cases hdevice : ∃ d ∈ db.devices, d.id = outcome.deviceId
    · obtain ⟨run, mid, hadd⟩ := addScanOutcome_of_device hdevice
      have hmid := evolves_addScanOutcome hadd
      have htasks : mid.scanTasks = db.scanTasks := (addScanOutcome_ok hadd).2.2.1
      have hmem' : task ∈ mid.scanTasks := by rw [htasks]; exact hmem
      refine Or.inr ⟨_, _, run, by rw [hadd], ?_, ⟨task, hmem, rfl, hrunning⟩, ?_⟩
      · apply hmid.andThen
        apply evolves_settleTask (h.evolve hmid) hmem' hrunning (settledStatus_ne_running outcome)
        intro t
        exact ⟨rfl, rfl⟩
      · apply settleTask_settles hmem' (settledStatus_isTerminal outcome)
        intro t
        rfl
    · refine Or.inl ⟨?_, by simpa using hdevice⟩
      have hnone : db.devices.find? (·.id = outcome.deviceId) = none := by
        rw [List.find?_eq_none]
        intro d hd
        simpa using fun hid => hdevice ⟨d, hd, hid⟩
      simp [addScanOutcome, hnone]

theorem failUnexpectedTask_cases (workerId : String) (taskId : ℕ) (now wall : Timestamp)
    {db : Database} (h : TasksOk db) :
    failUnexpectedTask workerId taskId now wall db = .error (.taskLeaseLost taskId) ∨
    ∃ task db', heldTask workerId taskId now db = some task ∧
      failUnexpectedTask workerId taskId now wall db = .ok db' ∧
      Evolves unclaimed [] db db' ∧ Settles taskId db db' := by
  unfold failUnexpectedTask
  cases hheld : heldTask workerId taskId now db with
  | none => exact Or.inl rfl
  | some task =>
    obtain ⟨hmem, rfl, hrunning, -⟩ := heldTask_spec hheld
    refine Or.inr ⟨task, _, rfl, rfl, ?_, ⟨task, hmem, rfl, hrunning⟩, ?_⟩
    · apply evolves_settleTask h hmem hrunning (by decide : ScanTaskStatus.failed ≠ .running)
      intro t
      exact ⟨rfl, rfl⟩
    · apply settleTask_settles hmem (rfl : ScanTaskStatus.failed.isTerminal = true)
      intro t
      rfl

/-! ## One call -/

theorem Evolves.commit {α : Type} {db : Database} (reply : α → Reply)
    {result : Except QueueError (α × Database)}
    (hok : ∀ a db', result = .ok (a, db') → Evolves unclaimed [] db db') :
    Evolves unclaimed [] db (Reply.commit reply db result).2 := by
  cases result with
  | error e => exact Evolves.refl db
  | ok r => exact hok r.1 r.2 rfl

/-- The claims an event records and the run it created are what happened to the rows. -/
theorem perform_evolves {db : Database} (h : TasksOk db) (call : Call) :
    ∃ created, Evolves (fun id => claimOf id (call, (perform call db).1)) created db
        (perform call db).2 ∧
      created.length = (runCreator (call, (perform call db).1)).toList.length ∧
      ∀ taskId, runCreator (call, (perform call db).1) = some taskId →
        Settles taskId db (perform call db).2 := by
  obtain ⟨now, wall, transaction⟩ := call
  -- both ways to persist differ in the outcome only
  have hpersist : ∀ workerId taskId outcome,
      let r := Reply.commit .settled db (persistOutcome workerId taskId outcome now wall db)
      ∃ created, Evolves unclaimed created db r.2 ∧
        ((∃ e, r.1 = .raised e) ∧ created = [] ∨
          (∃ done, r.1 = .settled done) ∧ created.length = 1 ∧ Settles taskId db r.2) := by
    intro workerId taskId outcome
    rcases persistOutcome_cases workerId taskId outcome now wall h with hlost | ⟨_, -, hrest⟩
    · rw [hlost]
      exact ⟨[], Evolves.refl db, Or.inl ⟨⟨_, rfl⟩, rfl⟩⟩
    · rcases hrest with ⟨hgone, -⟩ | ⟨done, db', run, hok, hev, hset⟩
      · rw [hgone]
        exact ⟨[], Evolves.refl db, Or.inl ⟨⟨_, rfl⟩, rfl⟩⟩
      · rw [hok]
        exact ⟨[run], hev, Or.inr ⟨⟨done, rfl⟩, rfl, hset⟩⟩
  cases transaction with
  | enqueueDevice queueSize deviceId trigger priority batchId =>
    refine ⟨[], ?_, by simp [runCreator], by simp [runCreator]⟩
    exact Evolves.commit _ fun _ _ hok => evolves_enqueueDevice h hok
  | createBatch queueSize batchType deviceIds clusterId sourceImportBatchId =>
    refine ⟨[], ?_, by simp [runCreator], by simp [runCreator]⟩
    exact Evolves.commit _ fun _ _ hok => evolves_createBatchInSession h hok
  | createImportScanBatch queueSize importBatchId =>
    refine ⟨[], ?_, by simp [runCreator], by simp [runCreator]⟩
    exact Evolves.commit _ fun _ _ hok => evolves_createImportScanBatch h hok
  | claimScanTasks workerId localCapacity globalLimit leaseSeconds =>
    refine ⟨[], ?_, by simp [runCreator], by simp [runCreator]⟩
    exact evolves_claimScanTasks h workerId localCapacity globalLimit leaseSeconds now wall
  | renewScanLeases workerId taskIds leaseSeconds =>
    refine ⟨[], ?_, by simp [runCreator], by simp [runCreator]⟩
    exact evolves_renewScanLeases workerId taskIds leaseSeconds now
  | persistOutcome workerId taskId outcome =>
    obtain ⟨created, hev, hcases⟩ := hpersist workerId taskId outcome
    refine ⟨created, hev, ?_⟩
    rcases hcases with ⟨⟨e, he⟩, rfl⟩ | ⟨⟨done, hdone⟩, hlen, hset⟩
    · simp [runCreator, perform, he]
    · simpa [runCreator, perform, hdone, hlen] using hset
  | recordTransactionConflict workerId taskId outcome =>
    obtain ⟨created, hev, hcases⟩ := hpersist workerId taskId (conflictOutcome outcome wall)
    refine ⟨created, hev, ?_⟩
    rcases hcases with ⟨⟨e, he⟩, rfl⟩ | ⟨⟨done, hdone⟩, hlen, hset⟩
    · simp [runCreator, perform, recordTransactionConflict, he]
    · simpa [runCreator, perform, recordTransactionConflict, hdone, hlen] using hset
  | failUnexpectedTask workerId taskId =>
    refine ⟨[], ?_, by simp [runCreator], by simp [runCreator]⟩
    rcases failUnexpectedTask_cases workerId taskId now wall h with hlost | ⟨_, db', -, hok, hev, -⟩
    · simp only [perform, hlost]
      exact Evolves.refl db
    · simp only [perform, hok]
      exact hev
  | cancelDevice deviceId =>
    refine ⟨[], ?_, by simp [runCreator], by simp [runCreator]⟩
    exact evolves_cancelDevice h deviceId wall

/-! ## The invariant of a journal -/

/-- `n` is the number of scan runs before the journal's first event. -/
structure Fenced (n : ℕ) (j : Journal) : Prop where
  tasks : TasksOk j.database
  claimed : ∀ t ∈ j.database.scanTasks, t.status = .running → t.workerId = lastClaim j.events t.id
  once : ∀ taskId, j.events.countP (fun e => runCreator e = some taskId) ≤ 1
  settled : ∀ taskId, 0 < j.events.countP (fun e => runCreator e = some taskId) →
    ∃ t ∈ j.database.scanTasks, t.id = taskId ∧ t.status.isTerminal
  runs : j.database.scanRuns.length = n + j.events.countP fun e => (runCreator e).isSome

theorem Evolves.keeps_terminal {c : ℕ → Option String} {created : List ScanRun} {db db' : Database}
    (h : Evolves c created db db') {t : ScanTask} (ht : t ∈ db.scanTasks)
    (hterminal : t.status.isTerminal) : t ∈ db'.scanTasks := by
  obtain ⟨⟨g, new, htasks, hmoves, -, -⟩, -, -, -⟩ := h
  have hg := (hmoves t ht).terminal hterminal
  rw [htasks, ← hg]
  exact List.mem_append_left _ (List.mem_map_of_mem ht)

/-- A task that has not settled cannot have created a run before. -/
theorem Fenced.count_eq_zero {n : ℕ} {j : Journal} (h : Fenced n j) {t : ScanTask}
    (ht : t ∈ j.database.scanTasks) (hrunning : t.status = .running) :
    j.events.countP (fun e => runCreator e = some t.id) = 0 := by
  by_contra hne
  obtain ⟨s, hs, hid, hterminal⟩ := h.settled t.id (Nat.pos_of_ne_zero hne)
  rw [h.tasks.unique hs ht hid, hrunning] at hterminal
  cases hterminal

theorem Fenced.step {n : ℕ} {j j' : Journal} {call : Call} (h : Fenced n j)
    (hstep : j.step call = some j') : Fenced n j' := by
  obtain ⟨created, hev, hlen, hset⟩ := perform_evolves h.tasks call
  rw [Journal.step_eq_some] at hstep
  subst hstep
  set event := (call, (perform call j.database).1)
  obtain ⟨⟨g, new, htasks, hmoves, -, hnew⟩, -, -, hruns⟩ := id hev
  refine ⟨h.tasks.evolve hev, ?_, ?_, ?_, ?_⟩
  · intro t ht hrunning
    dsimp only at ht ⊢
    rw [lastClaim_append]
    rw [htasks] at ht
    rcases List.mem_append.mp ht with ht | ht
    · obtain ⟨s, hs, rfl⟩ := List.mem_map.mp ht
      rw [(hmoves s hs).id]
      rcases (hmoves s hs).running hrunning with ⟨w, hw, hworker⟩ | ⟨hnone, hs', hworker⟩
      · simp [event, hw, hworker]
      · simpa [event, hnone, hworker] using h.claimed s hs hs'
    · obtain ⟨w, hw, hworker⟩ := (hnew t ht).2.2.2 hrunning
      simp [event, hw, hworker]
  · intro taskId
    rw [List.countP_append, List.countP_singleton]
    split_ifs with hcreates
    · obtain ⟨⟨t, ht, rfl, hrunning⟩, -⟩ := hset taskId (by simpa using hcreates)
      rw [h.count_eq_zero ht hrunning]
    · exact h.once taskId
  · intro taskId hpos
    rw [List.countP_append, List.countP_singleton] at hpos
    split_ifs at hpos with hcreates
    · exact (hset taskId (by simpa using hcreates)).2
    · obtain ⟨t, ht, hid, hterminal⟩ := h.settled taskId hpos
      exact ⟨t, hev.keeps_terminal ht hterminal, hid, hterminal⟩
  · have hn := h.runs
    have hone : [event].countP (fun e => (runCreator e).isSome) = created.length := by
      rw [hlen]
      cases hc : runCreator event <;> simp [hc]
    rw [List.countP_append, hone]
    simp only [hruns, List.length_append]
    omega

theorem Fenced.run {n : ℕ} {j j' : Journal} {calls : List Call} (h : Fenced n j)
    (hrun : Machine.run Journal.step j calls = some j') : Fenced n j' :=
  Machine.run_invariant (Fenced n) (fun _ _ _ hj hstep => hj.step hstep) h hrun

/-- A terminal task survives any continuation unchanged, and no run is created for it. -/
theorem Fenced.final {n : ℕ} {j j' : Journal} {calls : List Call} (h : Fenced n j)
    (hrun : Machine.run Journal.step j calls = some j') {t : ScanTask}
    (ht : t ∈ j.database.scanTasks) (hterminal : t.status.isTerminal) :
    t ∈ j'.database.scanTasks ∧ j'.events.countP (fun e => runCreator e = some t.id) =
      j.events.countP (fun e => runCreator e = some t.id) := by
  -- the invariant is carried along because uniqueness of keys is needed at each step
  have hinv := @Machine.run_invariant _ _ Journal.step
    (fun k => Fenced n k ∧ t ∈ k.database.scanTasks ∧
      k.events.countP (fun e => runCreator e = some t.id) =
        j.events.countP (fun e => runCreator e = some t.id)) ?_ _ _ _ ⟨h, ht, rfl⟩ hrun
  · exact hinv.2
  · rintro k call k' ⟨hk, hmem, hcount⟩ hstep
    refine ⟨hk.step hstep, ?_⟩
    obtain ⟨created, hev, -, hset⟩ := perform_evolves hk.tasks call
    rw [Journal.step_eq_some] at hstep
    subst hstep
    refine ⟨hev.keeps_terminal hmem hterminal, ?_⟩
    rw [List.countP_append, List.countP_singleton, hcount]
    split_ifs with hcreates
    · obtain ⟨⟨s, hs, hid, hrunning⟩, -⟩ := hset t.id (by simpa using hcreates)
      rw [← hk.tasks.unique hs hmem hid, hrunning] at hterminal
      cases hterminal
    · rfl

/-- A settlement takes effect for the last claimant of a running task, and in every
other case reports the lost lease and changes nothing. -/
theorem Fenced.settlement {n : ℕ} {j : Journal} (h : Fenced n j) (call : Call) {workerId : String}
    {taskId : ℕ} (hsettles : call.transaction.settlement = some (workerId, taskId))
    (hfaithful : call.transaction.Faithful j.database) :
    (lastClaim j.events taskId = some workerId ∧
        Settles taskId j.database (perform call j.database).2 ∧
        ∀ e, (perform call j.database).1 ≠ .raised e) ∨
      perform call j.database = (.raised (.taskLeaseLost taskId), j.database) := by
  obtain ⟨now, wall, transaction⟩ := call
  have hclaim : ∀ {workerId taskId task}, heldTask workerId taskId now j.database = some task →
      lastClaim j.events taskId = some workerId := by
    intro workerId taskId task hheld
    obtain ⟨hmem, rfl, hrunning, hworker⟩ := heldTask_spec hheld
    rw [← h.claimed task hmem hrunning, hworker]
  have hpersist : ∀ workerId taskId outcome,
      (∀ t ∈ j.database.scanTasks, t.id = taskId → outcome.deviceId = t.deviceId) →
      let r := Reply.commit .settled j.database
        (persistOutcome workerId taskId outcome now wall j.database)
      (lastClaim j.events taskId = some workerId ∧ Settles taskId j.database r.2 ∧
        ∀ e, r.1 ≠ .raised e) ∨ r = (.raised (.taskLeaseLost taskId), j.database) := by
    intro workerId taskId outcome hdevice
    rcases persistOutcome_cases workerId taskId outcome now wall h.tasks with
      hlost | ⟨task, hheld, ⟨-, hgone⟩ | ⟨done, db', run, hok, -, hset⟩⟩
    · rw [hlost]
      exact Or.inr rfl
    · obtain ⟨hmem, hid, -, -⟩ := heldTask_spec hheld
      rw [hdevice task hmem hid] at hgone
      exact absurd (h.tasks.device task hmem) hgone
    · rw [hok]
      exact Or.inl ⟨hclaim hheld, hset, fun e he => by cases he⟩
  cases transaction with
  | persistOutcome _ _ outcome =>
    cases hsettles
    exact hpersist _ _ outcome hfaithful
  | recordTransactionConflict _ _ outcome =>
    cases hsettles
    exact hpersist _ _ (conflictOutcome outcome wall) hfaithful
  | failUnexpectedTask _ _ =>
    cases hsettles
    rcases failUnexpectedTask_cases workerId taskId now wall h.tasks with
      hlost | ⟨task, db', hheld, hok, -, hset⟩
    · exact Or.inr (by simp [perform, hlost])
    · exact Or.inl ⟨hclaim hheld, by simpa [perform, hok] using hset, by simp [perform, hok]⟩
  | enqueueDevice | createBatch | createImportScanBatch | claimScanTasks | renewScanLeases
  | cancelDevice => cases hsettles

/-- In every run from a database without running tasks: terminal tasks are final,
every scan run belongs to one of at most one persisting event per task, and a
settlement is fenced by the most recent claim. -/
theorem settlement_fenced_and_at_most_once {db₀ : Database} (h₀ : TasksOk db₀)
    (hidle : ∀ t ∈ db₀.scanTasks, t.status ≠ .running) {calls : List Call} {j : Journal}
    (hrun : Machine.run Journal.step ⟨db₀, []⟩ calls = some j) :
    (∀ t ∈ j.database.scanTasks, t.status.isTerminal → ∀ more j',
      Machine.run Journal.step j more = some j' →
        (∀ t' ∈ j'.database.scanTasks, t'.id = t.id ↔ t' = t) ∧ t ∈ j'.database.scanTasks ∧
        j'.events.countP (fun e => runCreator e = some t.id) =
          j.events.countP (fun e => runCreator e = some t.id)) ∧
    (∀ taskId, j.events.countP (fun e => runCreator e = some taskId) ≤ 1) ∧
    j.database.scanRuns.length =
      db₀.scanRuns.length + j.events.countP (fun e => (runCreator e).isSome) ∧
    ∀ call workerId taskId, call.transaction.settlement = some (workerId, taskId) →
      call.transaction.Faithful j.database →
        (lastClaim j.events taskId = some workerId ∧
            Settles taskId j.database (perform call j.database).2 ∧
            ∀ e, (perform call j.database).1 ≠ .raised e) ∨
          perform call j.database = (.raised (.taskLeaseLost taskId), j.database) := by
  have hstart : Fenced db₀.scanRuns.length ⟨db₀, []⟩ :=
    ⟨h₀, fun t ht hrunning => absurd hrunning (hidle t ht), by simp, by simp, by simp⟩
  have h := hstart.run hrun
  refine ⟨?_, h.once, h.runs, fun call workerId taskId => h.settlement call⟩
  intro t ht hterminal more j' hmore
  obtain ⟨hmem, hcount⟩ := h.final hmore ht hterminal
  refine ⟨?_, hmem, hcount⟩
  intro t' ht'
  constructor
  · exact (h.run hmore).tasks.unique ht' hmem
  · rintro rfl
    rfl

/-- One device is queued and claimed; the lease runs out and another worker claims it. -/
def reclaimCalls : List Call :=
  [⟨0, 0, .enqueueDevice 10 1 .manual 100 none⟩, ⟨0, 0, .claimScanTasks "worker-a" 1 1 90⟩,
    ⟨90000000, 90000000, .claimScanTasks "worker-b" 1 1 90⟩]

/-- The first worker's late result. -/
def latePersist : Call :=
  ⟨90000001, 90000001, .persistOutcome "worker-a" 1
    { deviceId := 1, trigger := .manual, status := .success, startedAt := 0, finishedAt := 5 }⟩

theorem late_persist_is_fenced :
    ∃ j, Machine.run Journal.step ⟨oneDeviceDatabase, []⟩ reclaimCalls = some j ∧
      lastClaim j.events 1 = some "worker-b" ∧
      perform latePersist j.database = (.raised (.taskLeaseLost 1), j.database) := by
  obtain ⟨j, hj⟩ : ∃ j, Machine.run Journal.step ⟨oneDeviceDatabase, []⟩ reclaimCalls = some j :=
    ⟨_, rfl⟩
  have hok : TasksOk oneDeviceDatabase := ⟨by simp [oneDeviceDatabase], by simp [oneDeviceDatabase],
    by simp [oneDeviceDatabase]⟩
  have hlast : lastClaim j.events 1 = some "worker-b" := by
    cases hj
    decide
  have hfaithful : latePersist.transaction.Faithful j.database := by
    cases hj
    simp only [latePersist, Transaction.Faithful]
    decide
  refine ⟨j, hj, hlast, ?_⟩
  rcases (settlement_fenced_and_at_most_once hok (by simp [oneDeviceDatabase]) hj).2.2.2
    latePersist "worker-a" 1 rfl hfaithful with ⟨hclaim, -⟩ | hlost
  · rw [hlast] at hclaim
    simp at hclaim
  · exact hlost

end ConnectionTopology
