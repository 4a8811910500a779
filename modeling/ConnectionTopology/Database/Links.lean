import ConnectionTopology.Database.Inserts

/-!
# No reference dangles

A transaction of the services extends the database or deletes rows together with what refers to
them. Deleting a device relies on more than the foreign keys: a task that keeps the reference to
its scan run is of the same device as the run.
-/
namespace ConnectionTopology

open ForeignKeys

variable {db db' db'' : Database}

/-- The scan run of a task is a run of its device. -/
def Database.RunsOwned (db : Database) : Prop :=
  ∀ t ∈ db.scanTasks, ∀ run ∈ db.scanRuns, t.scanRunId = some run.id → run.deviceId = t.deviceId

/-- Rows are inserted and rewritten, and no task is given another scan run. -/
structure Database.Extends (db db' : Database) : Prop where
  grows : db.KeepsLinks db'
  runs : db'.scanRuns = db.scanRuns
  tasks : ∀ t' ∈ db'.scanTasks, ∀ r, t'.scanRunId = some r →
    ∃ t ∈ db.scanTasks, t.deviceId = t'.deviceId ∧ t.scanRunId = some r

theorem Database.Extends.of_tasks (hgrows : db.KeepsLinks db') (hruns : db'.scanRuns = db.scanRuns)
    (htasks : db'.scanTasks = db.scanTasks) : db.Extends db' :=
  ⟨hgrows, hruns, fun t ht _ hr => ⟨t, htasks ▸ ht, rfl, hr⟩⟩

theorem Database.Extends.refl (db : Database) : db.Extends db := .of_tasks (ForeignKeys.Grows.refl _) rfl rfl

theorem Database.Extends.trans (h : db.Extends db') (h' : db'.Extends db'') : db.Extends db'' := by
  refine ⟨h.grows.trans h'.grows, h'.runs.trans h.runs, fun t'' ht'' r hr => ?_⟩
  obtain ⟨t', ht', hdevice', hr'⟩ := h'.tasks t'' ht'' r hr
  obtain ⟨t, ht, hdevice, hr⟩ := h.tasks t' ht' r hr'
  exact ⟨t, ht, hdevice.trans hdevice', hr⟩

theorem Database.RunsOwned.extends (h : db.RunsOwned) (hextends : db.Extends db') :
    db'.RunsOwned := by
  intro t' ht' run hrun hr
  obtain ⟨t, ht, hdevice, hr⟩ := hextends.tasks t' ht' run.id hr
  rw [hextends.runs] at hrun
  exact (h t ht run hrun hr).trans hdevice

/-- The references hold, and every task refers to a run of its device. -/
structure Database.Sound (db : Database) : Prop where
  linked : db.Linked
  owned : db.RunsOwned

theorem Database.Sound.extends (h : db.Sound) (hextends : db.Extends db') : db'.Sound :=
  ⟨h.linked.grows hextends.grows, h.owned.extends hextends⟩

/-! ## The transactions of the queue -/

theorem Database.Extends.mapTasks (db : Database) {p : ScanTask → Prop} [DecidablePred p]
    {f : ScanTask → ScanTask}
    (hf : ∀ t, (f t).id = t.id ∧ (f t).deviceId = t.deviceId ∧ (f t).scanRunId = t.scanRunId) :
    db.Extends { db with scanTasks := db.scanTasks.map fun t => if p t then f t else t } := by
  refine ⟨Database.KeepsLinks.mapTasks db (fun t => (hf t).1) (fun t => (hf t).2.1) ?_, rfl, ?_⟩
  · exact fun t r hr => Or.inl ((hf t).2.2 ▸ hr)
  · intro t' ht' r hr
    obtain ⟨t, ht, rfl⟩ := List.mem_map.mp ht'
    refine ⟨t, ht, ?_⟩
    split_ifs at hr ⊢
    · exact ⟨(hf t).2.1.symm, (hf t).2.2 ▸ hr⟩
    · exact ⟨rfl, hr⟩

theorem Database.Extends.moveTask (db : Database) (taskId : ℕ) (status : ScanTaskStatus)
    {f : ScanTask → ScanTask}
    (hf : ∀ t, (f t).id = t.id ∧ (f t).deviceId = t.deviceId ∧ (f t).scanRunId = t.scanRunId) :
    db.Extends (db.moveTask taskId status f) := by
  have htask : db.Extends (db.updateTask taskId fun t => { f t with status := status }) :=
    Database.Extends.mapTasks db hf
  exact htask.trans (.of_tasks (Database.KeepsLinks.setItems _ taskId status) rfl rfl)

theorem Database.Extends.refresh (wall : Timestamp) (ids : List ℕ) (db : Database) :
    db.Extends (refreshScanBatches wall ids db) :=
  .of_tasks (Database.KeepsLinks.refreshScanBatches wall ids db) (refreshScanBatches_scanRuns ..)
    (refreshScanBatches_scanTasks ..)

/-- The task that an enqueuing call works with is there and is one of the device. -/
theorem reuseOrInsertTask_extends {queueSize deviceId : ℕ} {trigger : ScanTrigger} {priority : ℤ}
    {wall : Timestamp} {task : ScanTask} (hdevice : deviceId ∈ db.devices.map (·.id))
    (hok : reuseOrInsertTask queueSize deviceId trigger priority wall db = .ok (task, db')) :
    db.Extends db' ∧ task.id ∈ db'.scanTasks.map (·.id) ∧ task.deviceId = deviceId := by
  unfold reuseOrInsertTask at hok
  split at hok
  · split_ifs at hok
    cases hok
    refine ⟨⟨Database.KeepsLinks.insertTask hdevice trigger priority wall, rfl, ?_⟩, ?_, rfl⟩
    · intro t ht r hr
      rcases List.mem_append.mp ht with hold | hnew
      · exact ⟨t, hold, rfl, hr⟩
      · rw [List.mem_singleton.mp hnew] at hr
        cases hr
    · exact List.mem_map_of_mem (List.mem_append_right _ List.mem_cons_self)
  · rename_i active hactive
    have hmem := List.mem_of_find?_eq_some hactive
    have hkey := List.find?_some hactive
    simp only [Bool.and_eq_true, decide_eq_true_eq] at hkey
    have hraised := Except.ok.inj hok
    unfold raisePriority at hraised
    split_ifs at hraised
    · cases hraised
      have hextends := Database.Extends.mapTasks db (p := fun t => t.id = active.id)
        (f := fun t => { t with priority := priority, triggerType := trigger })
        fun _ => ⟨rfl, rfl, rfl⟩
      have hstays := hextends.grows.subset .scanTasks (List.mem_map.mpr ⟨active, hmem, rfl⟩)
      exact ⟨hextends, hstays, hkey.1⟩
    · cases hraised
      exact ⟨.refl _, List.mem_map_of_mem hmem, hkey.1⟩

theorem enqueueInSession_extends {queueSize deviceId : ℕ} {trigger : ScanTrigger} {priority : ℤ}
    {batchId : Option ℕ} {wall : Timestamp} {task : ScanTask}
    (hok : enqueueInSession queueSize deviceId trigger priority batchId wall db = .ok (task, db')) :
    db.Extends db' := by
  unfold enqueueInSession at hok
  split at hok
  · cases hok
  · rename_i device hfind
    have hdevice : deviceId ∈ db.devices.map (·.id) :=
      List.mem_map.mpr ⟨device, List.mem_of_find?_eq_some hfind, by simpa using List.find?_some hfind⟩
    split_ifs at hok
    split at hok
    · cases hok
    · rename_i reused mid hreuse
      obtain ⟨hextends, htask, hof⟩ := reuseOrInsertTask_extends hdevice hreuse
      split at hok
      · cases hok
        exact hextends
      · split at hok
        · cases hok
        · rename_i attached
          cases hok
          have hmem := hof ▸ hextends.grows.subset .devices hdevice
          have hattached := Database.KeepsLinks.attachBatchItem htask hmem attached
          refine hextends.trans (.of_tasks hattached ?_ ?_)
          all_goals
            unfold attachBatchItem at attached
            split_ifs at attached <;> cases attached <;> rfl

theorem enqueueAll_extends {queueSize batchId : ℕ} {trigger : ScanTrigger} {priority : ℤ}
    {wall : Timestamp} {deviceIds : List ℕ}
    (hok : enqueueAll queueSize trigger priority batchId wall deviceIds db = .ok db') :
    db.Extends db' := by
  induction deviceIds generalizing db with
  | nil =>
    cases hok
    exact .refl _
  | cons deviceId rest ih =>
    rw [enqueueAll] at hok
    split at hok
    · cases hok
    · rename_i first mid hfirst
      exact (enqueueInSession_extends hfirst).trans (ih hok)

/-- The new batch is there afterwards. -/
theorem createBatchInSession_extends {queueSize : ℕ} {batchType : ScanBatchType} {deviceIds : List ℕ}
    {clusterId sourceImportBatchId : Option ℕ} {wall : Timestamp} {batchId : ℕ}
    (hok : createBatchInSession queueSize batchType deviceIds clusterId sourceImportBatchId wall db =
      .ok (batchId, db')) : db.Extends db' ∧ batchId ∈ db'.scanBatches.map (·.id) := by
  unfold createBatchInSession at hok
  dsimp only at hok
  split_ifs at hok with hfull hreferences
  split at hok
  · cases hok
  · rename_i mid hall
    cases hok
    rw [Bool.not_eq_true, Bool.not_eq_false'] at hreferences
    have hinsert : db.Extends (insertBatch batchType clusterId sourceImportBatchId wall db).2 :=
      .of_tasks (Database.KeepsLinks.insertBatch hreferences batchType wall) rfl rfl
    have hloop := enqueueAll_extends hall
    have hrefresh := Database.Extends.refresh wall
      [(insertBatch batchType clusterId sourceImportBatchId wall db).1.id] mid
    refine ⟨hinsert.trans (hloop.trans hrefresh), ?_⟩
    apply (hloop.trans hrefresh).grows.subset .scanBatches
    exact List.mem_map_of_mem (List.mem_append_right _ List.mem_cons_self)

theorem createImportScanBatch_extends {queueSize importBatchId : ℕ} {wall : Timestamp}
    {batchId : Option ℕ} (hok : createImportScanBatch queueSize importBatchId wall db =
      .ok (batchId, db')) : db.Extends db' := by
  unfold createImportScanBatch at hok
  split at hok
  · cases hok
    exact .refl _
  · split at hok
    · cases hok
      exact .refl _
    · split at hok
      · cases hok
      · rename_i created mid hcreate
        cases hok
        obtain ⟨hextends, hmem⟩ := createBatchInSession_extends hcreate
        have hscan := Database.KeepsLinks.mapImportBatches mid (p := fun b => b.id = importBatchId)
          (f := fun b => { b with scanBatchId := some created }) (fun _ => rfl) fun b k hk =>
            Or.inr (Option.some.inj hk ▸ hmem)
        exact hextends.trans (.of_tasks hscan rfl rfl)

theorem claimScanTasks_extends (workerId : String) (localCapacity globalLimit : ℤ)
    (leaseSeconds : ℕ) (now wall : Timestamp) (db : Database) :
    db.Extends (claimScanTasks workerId localCapacity globalLimit leaseSeconds now wall db).2 := by
  unfold claimScanTasks
  split_ifs
  · exact .refl _
  · dsimp only
    refine Database.Extends.trans ?_ (.refresh wall _ _)
    apply moveTasks_induction (P := db.Extends)
    · apply moveTasks_induction (P := db.Extends) _ _ (.refl db)
      exact fun id _ mid hmid => hmid.trans (.moveTask mid id .pending fun _ => ⟨rfl, rfl, rfl⟩)
    · exact fun id _ mid hmid => hmid.trans (.moveTask mid id .running fun _ => ⟨rfl, rfl, rfl⟩)

theorem renewScanLeases_extends (workerId : String) (taskIds : List ℕ) (leaseSeconds : ℕ)
    (now : Timestamp) (db : Database) :
    db.Extends (renewScanLeases workerId taskIds leaseSeconds now db).2 := by
  unfold renewScanLeases
  split_ifs
  · exact .refl _
  · exact .mapTasks db fun _ => ⟨rfl, rfl, rfl⟩

theorem settleTask_extends (taskId : ℕ) (status : ScanTaskStatus) {f : ScanTask → ScanTask}
    (hf : ∀ t, (f t).id = t.id ∧ (f t).deviceId = t.deviceId ∧ (f t).scanRunId = t.scanRunId)
    (wall : Timestamp) (db : Database) : db.Extends (settleTask taskId status f wall db) := by
  unfold settleTask
  refine Database.Extends.trans ?_ (.refresh wall _ _)
  exact .moveTask db taskId status hf

theorem cancelDevice_extends (deviceId : ℕ) (wall : Timestamp) (db : Database) :
    db.Extends (cancelDevice deviceId wall db).2 := by
  unfold cancelDevice
  split
  · exact .refl _
  · split_ifs
    · exact .refl _
    · refine Database.Extends.trans ?_ (.refresh wall _ _)
      exact .moveTask db _ .cancelled fun _ => ⟨rfl, rfl, rfl⟩

/-- The key of a recorded run is new, so no task refers to it yet. -/
theorem Database.Sound.addScanOutcome (h : db.Sound) {outcome : ScanOutcome} {run : ScanRun}
    (hok : addScanOutcome outcome db = .ok (run, db')) :
    db'.Sound ∧ run ∈ db'.scanRuns ∧ run.deviceId = outcome.deviceId := by
  obtain ⟨hgrows, hruns, hdevice⟩ := Database.KeepsLinks.addScanOutcome h.linked hok
  have htasks := (addScanOutcome_ok hok).2.2.1
  have hlinked := h.linked.grows hgrows
  refine ⟨⟨hlinked, fun t ht r hr hid => ?_⟩, ?_, hdevice⟩
  · rw [htasks] at ht
    rw [hruns] at hr
    rcases List.mem_append.mp hr with hold | hnew
    · exact h.owned t ht r hold hid
    · rw [List.mem_singleton.mp hnew] at hid
      have hold := h.linked.linked .taskRun (List.mem_filterMap.mpr ⟨t, ht, hid⟩)
      have hnodup : ((db.scanRuns ++ [run]).map (·.id)).Nodup := hruns ▸ hlinked.distinct .scanRuns
      rw [List.map_append, List.nodup_append'] at hnodup
      exact absurd List.mem_cons_self (hnodup.2.2 hold)
  · rw [hruns]
    exact List.mem_append_right _ List.mem_cons_self

/-- A task is given a run of its device. -/
theorem Database.Sound.giveRun (h : db.Sound) {run : ScanRun} (hrun : run ∈ db.scanRuns)
    {taskId : ℕ} (hown : ∀ t ∈ db.scanTasks, t.id = taskId → run.deviceId = t.deviceId)
    (status : ScanTaskStatus) {f : ScanTask → ScanTask}
    (hf : ∀ t, (f t).id = t.id ∧ (f t).deviceId = t.deviceId ∧ (f t).scanRunId = some run.id) :
    (db.moveTask taskId status f).Sound := by
  constructor
  · apply h.linked.grows
    refine Database.KeepsLinks.moveTask db taskId status (fun t => (hf t).1) (fun t => (hf t).2.1) ?_
    intro t r hr
    rw [(hf t).2.2] at hr
    cases hr
    exact Or.inr (List.mem_map_of_mem hrun)
  · intro t' ht' r hr hid
    obtain ⟨t, ht, rfl⟩ := List.mem_map.mp ht'
    split_ifs at hid ⊢ with hmoved
    · have hsame : run.id = r.id := Option.some.inj ((hf t).2.2.symm.trans hid)
      rw [← List.inj_on_of_nodup_map (h.linked.distinct .scanRuns) hrun hr hsame]
      exact (hown t ht hmoved).trans (hf t).2.1.symm
    · exact h.owned t ht r hr hid

/-- Settling gives the task the run that its execution has recorded. -/
theorem Database.Sound.persistOutcome (h : db.Sound) {workerId : String} {taskId : ℕ}
    {outcome : ScanOutcome} {now wall : Timestamp} {success : Bool}
    (hown : ∀ t ∈ db.scanTasks, t.id = taskId → outcome.deviceId = t.deviceId)
    (hok : persistOutcome workerId taskId outcome now wall db = .ok (success, db')) : db'.Sound := by
  unfold ConnectionTopology.persistOutcome at hok
  split at hok
  · cases hok
  · rename_i task hheld
    split at hok
    · cases hok
    · rename_i run mid hadd
      cases hok
      obtain ⟨hsound, hrun, hdevice⟩ := h.addScanOutcome hadd
      have htask : task.id = taskId := by
        have hkey := List.find?_some hheld
        simp only [Bool.and_eq_true, decide_eq_true_eq] at hkey
        exact hkey.1
      have hmoved : (mid.moveTask task.id (settledStatus outcome) fun t =>
          (ScanTask.withOutcome run outcome t).releaseLease).Sound := by
        apply hsound.giveRun hrun
        · intro t ht hid
          rw [(addScanOutcome_ok hadd).2.2.1] at ht
          rw [hdevice]
          exact hown t ht (hid.trans htask)
        · exact fun _ => ⟨rfl, rfl, rfl⟩
      exact hmoved.extends (.refresh wall _ _)

/-! ## Deletions -/

/-- Tasks and runs that stay, with fewer references between them. -/
theorem Database.Sound.shrinks (h : db.Sound) (hshrinks : db.Shrinks db')
    (hruns : ∀ run ∈ db'.scanRuns, run ∈ db.scanRuns)
    (htasks : ∀ t' ∈ db'.scanTasks, ∃ t ∈ db.scanTasks, t.deviceId = t'.deviceId ∧
      ∀ r, t'.scanRunId = some r → t.scanRunId = some r) : db'.Sound := by
  refine ⟨h.linked.shrinks hshrinks, fun t' ht' run hrun hid => ?_⟩
  obtain ⟨t, ht, hdevice, hkeeps⟩ := htasks t' ht'
  exact (h.owned t ht run (hruns run hrun) (hkeeps run.id hid)).trans hdevice

/-- Everything that refers to the device goes with it or lets go of it. -/
theorem Database.Sound.dropDevice (h : db.Sound) (deviceId : ℕ) : (db.dropDevice deviceId).Sound := by
  have hdevices : ∀ {k}, k ≠ deviceId → k ∈ db.devices.map (·.id) →
      k ∈ (db.devices.filter (·.id ≠ deviceId)).map (·.id) := by
    intro k hk hmem
    exact mem_map_filter hmem fun d _ hd => hd ▸ hk
  have hruns : ∀ {k}, (∀ run ∈ db.scanRuns, run.id = k → run.deviceId ≠ deviceId) →
      k ∈ db.scanRuns.map (·.id) →
      k ∈ (db.scanRuns.filter (·.deviceId ≠ deviceId)).map (·.id) :=
    fun hk hmem => mem_map_filter hmem hk
  have hgone : ∀ {k}, (!db.scanRuns.any fun r => r.id = k && r.deviceId = deviceId) = true →
      ∀ run ∈ db.scanRuns, run.id = k → run.deviceId ≠ deviceId := by
    intro k hk run hrun hid hdevice
    simp only [Bool.not_eq_true', List.any_eq_false, Bool.and_eq_true, decide_eq_true_eq,
      not_and] at hk
    exact hk run hrun hid hdevice
  have hrows : ∀ column : ImportRowResult → ℕ,
      (∀ r : ImportRowResult, column { r with deviceId := none } = column r) →
      (db.dropDevice deviceId).importRowResults.map column = db.importRowResults.map column :=
    fun _ hcolumn => map_update hcolumn _
  apply h.shrinks
  · constructor
    · intro t
      cases t
      case devices | scanRuns | connectionRecords | scanTasks =>
        exact List.filter_sublist.map _
      case importRowResults =>
        show ((db.dropDevice deviceId).importRowResults.map (·.id)).Sublist
          (db.importRowResults.map (·.id))
        rw [hrows _ fun _ => rfl]
      all_goals exact List.Sublist.refl _
    · exact fun _ => le_rfl
    · intro f k hk
      cases f
      case deviceCluster => exact ⟨(List.filter_sublist.filterMap _).subset hk, id⟩
      case runDevice | taskDevice =>
        obtain ⟨row, hrow, rfl⟩ := List.mem_map.mp hk
        obtain ⟨hmem, hother⟩ := List.mem_filter.mp hrow
        exact ⟨List.mem_map_of_mem hmem, hdevices (of_decide_eq_true hother)⟩
      case recordRun =>
        obtain ⟨c, hc, rfl⟩ := List.mem_map.mp hk
        obtain ⟨hmem, hstays⟩ := List.mem_filter.mp hc
        exact ⟨List.mem_map_of_mem hmem, hruns (hgone hstays)⟩
      case observationRun =>
        obtain ⟨o, ho, rfl⟩ := List.mem_map.mp hk
        obtain ⟨hmem, hstays⟩ := List.mem_filter.mp ho
        exact ⟨List.mem_map_of_mem hmem, hruns (hgone (Bool.and_eq_true_iff.mp hstays).2)⟩
      case observationDevice =>
        obtain ⟨o, ho, rfl⟩ := List.mem_map.mp hk
        obtain ⟨hmem, hstays⟩ := List.mem_filter.mp ho
        exact ⟨List.mem_map_of_mem hmem,
          hdevices (of_decide_eq_true (Bool.and_eq_true_iff.mp hstays).1)⟩
      case taskRun =>
        obtain ⟨t, ht, hr⟩ := List.mem_filterMap.mp hk
        obtain ⟨hmem, hother⟩ := List.mem_filter.mp ht
        refine ⟨List.mem_filterMap.mpr ⟨t, hmem, hr⟩, hruns fun run hrun hid => ?_⟩
        rw [h.owned t hmem run hrun (hid ▸ hr)]
        exact of_decide_eq_true hother
      case itemBatch => exact ⟨(List.filter_sublist.map _).subset hk, id⟩
      case itemTask =>
        obtain ⟨i, hi, rfl⟩ := List.mem_map.mp hk
        obtain ⟨hmem, hstays⟩ := List.mem_filter.mp hi
        refine ⟨List.mem_map_of_mem hmem, fun hkey => mem_map_filter hkey fun t ht hid hdevice => ?_⟩
        have hnone := (Bool.and_eq_true_iff.mp hstays).2
        simp only [Bool.not_eq_true', List.any_eq_false, Bool.and_eq_true, decide_eq_true_eq,
          not_and] at hnone
        exact hnone t ht hid hdevice
      case itemDevice =>
        obtain ⟨i, hi, rfl⟩ := List.mem_map.mp hk
        obtain ⟨hmem, hstays⟩ := List.mem_filter.mp hi
        exact ⟨List.mem_map_of_mem hmem,
          hdevices (of_decide_eq_true (Bool.and_eq_true_iff.mp hstays).1)⟩
      case rowBatch =>
        exact ⟨(congrArg (k ∈ ·) (hrows (·.batchId) fun _ => rfl)).mp hk, id⟩
      case rowDevice =>
        obtain ⟨r', hr', hdevice⟩ := List.mem_filterMap.mp hk
        obtain ⟨r, hr, rfl⟩ := List.mem_map.mp hr'
        split_ifs at hdevice with hcleared
        refine ⟨List.mem_filterMap.mpr ⟨r, hr, hdevice⟩, hdevices ?_⟩
        rintro rfl
        exact hcleared hdevice
      all_goals exact ⟨hk, id⟩
  · exact fun run hrun => List.mem_of_mem_filter hrun
  · exact fun t ht => ⟨t, List.mem_of_mem_filter ht, rfl, fun _ hr => hr⟩

/-- Scans go with their rows, and their tasks stay. -/
theorem Database.Sound.deleteScanRuns (h : db.Sound) (scanIds : List ℕ) :
    (deleteScanRuns scanIds db).Sound := by
  have hruns : ∀ {k}, k ∉ scanIds → k ∈ db.scanRuns.map (·.id) →
      k ∈ (db.scanRuns.filter (·.id ∉ scanIds)).map (·.id) := by
    intro k hk hmem
    exact mem_map_filter hmem fun r _ hr => hr ▸ hk
  have htasks : (ConnectionTopology.deleteScanRuns scanIds db).scanTasks.map (·.id) =
      db.scanTasks.map (·.id) := by
    rw [ConnectionTopology.deleteScanRuns, List.map_map]
    rfl
  apply h.shrinks
  · constructor
    · intro t
      cases t
      case scanRuns | connectionRecords => exact List.filter_sublist.map _
      case scanTasks =>
        show ((ConnectionTopology.deleteScanRuns scanIds db).scanTasks.map (·.id)).Sublist
          (db.scanTasks.map (·.id))
        rw [htasks]
      all_goals exact List.Sublist.refl _
    · exact fun _ => le_rfl
    · intro f k hk
      cases f
      case runDevice => exact ⟨(List.filter_sublist.map _).subset hk, id⟩
      case recordRun | observationRun =>
        obtain ⟨row, hrow, rfl⟩ := List.mem_map.mp hk
        obtain ⟨hmem, hstays⟩ := List.mem_filter.mp hrow
        exact ⟨List.mem_map_of_mem hmem, hruns (of_decide_eq_true hstays)⟩
      case observationDevice => exact ⟨(List.filter_sublist.map _).subset hk, id⟩
      case taskRun =>
        obtain ⟨t', ht', hr⟩ := List.mem_filterMap.mp hk
        obtain ⟨t, ht, rfl⟩ := List.mem_map.mp ht'
        obtain ⟨hr, hstays⟩ := Option.filter_eq_some_iff.mp hr
        exact ⟨List.mem_filterMap.mpr ⟨t, ht, hr⟩, hruns (of_decide_eq_true hstays)⟩
      case taskDevice =>
        obtain ⟨t', ht', rfl⟩ := List.mem_map.mp hk
        obtain ⟨t, ht, rfl⟩ := List.mem_map.mp ht'
        exact ⟨List.mem_map.mpr ⟨t, ht, rfl⟩, id⟩
      case itemTask => exact ⟨hk, (congrArg (k ∈ ·) htasks).mpr⟩
      all_goals exact ⟨hk, id⟩
  · exact fun run hrun => List.mem_of_mem_filter hrun
  · intro t' ht'
    obtain ⟨t, ht, rfl⟩ := List.mem_map.mp ht'
    exact ⟨t, ht, rfl, fun r hr => (Option.filter_eq_some_iff.mp hr).1⟩

theorem Database.Sound.deleteConnectionRecords (h : db.Sound) (scanIds : List ℕ) :
    (deleteConnectionRecords scanIds db).Sound := by
  apply h.shrinks
  · constructor
    · intro t
      cases t
      case connectionRecords => exact List.filter_sublist.map _
      all_goals exact List.Sublist.refl _
    · exact fun _ => le_rfl
    · intro f k hk
      cases f
      case recordRun => exact ⟨(List.filter_sublist.map _).subset hk, id⟩
      all_goals exact ⟨hk, id⟩
  · exact fun _ hrun => hrun
  · exact fun t ht => ⟨t, ht, rfl, fun _ hr => hr⟩

/-- The members and the batches of a cluster stay without it. -/
theorem Database.Sound.deleteCluster (h : db.Sound) (clusterId : ℕ) :
    (deleteCluster clusterId db).Sound := by
  have hclusters : ∀ {k}, k ≠ clusterId → k ∈ db.clusters.map (·.id) →
      k ∈ (db.clusters.filter (·.id ≠ clusterId)).map (·.id) := by
    intro k hk hmem
    exact mem_map_filter hmem fun c _ hc => hc ▸ hk
  have hbatches : ∀ {β : Type} (column : ScanBatch → β),
      (∀ b : ScanBatch, column { b with clusterId := none } = column b) →
      (ConnectionTopology.deleteCluster clusterId db).scanBatches.map column =
        db.scanBatches.map column := fun _ hcolumn => map_update hcolumn _
  have hdevices : (ConnectionTopology.deleteCluster clusterId db).devices.map (·.id) =
      db.devices.map (·.id) :=
    map_update (p := fun d : Device => d.clusterId = some clusterId)
      (f := fun d => { d with clusterId := none }) (fun _ => rfl) _
  have hsources : (ConnectionTopology.deleteCluster clusterId db).scanBatches.filterMap
      (·.sourceImportBatchId) = db.scanBatches.filterMap (·.sourceImportBatchId) :=
    filterMap_update (p := fun b : ScanBatch => b.clusterId = some clusterId)
      (f := fun b => { b with clusterId := none }) (fun _ => rfl) _
  apply h.shrinks
  · constructor
    · intro t
      cases t
      case clusters => exact List.filter_sublist.map _
      case devices =>
        show ((ConnectionTopology.deleteCluster clusterId db).devices.map (·.id)).Sublist
          (db.devices.map (·.id))
        rw [hdevices]
      case scanBatches =>
        show ((ConnectionTopology.deleteCluster clusterId db).scanBatches.map (·.id)).Sublist
          (db.scanBatches.map (·.id))
        rw [hbatches _ fun _ => rfl]
      all_goals exact List.Sublist.refl _
    · exact fun _ => le_rfl
    · intro f k hk
      cases f
      case deviceCluster | batchCluster =>
        obtain ⟨row', hrow', hcluster⟩ := List.mem_filterMap.mp hk
        obtain ⟨row, hrow, rfl⟩ := List.mem_map.mp hrow'
        split_ifs at hcluster with hcleared
        refine ⟨List.mem_filterMap.mpr ⟨row, hrow, hcluster⟩, hclusters ?_⟩
        rintro rfl
        exact hcleared hcluster
      case batchImport => exact ⟨(congrArg (k ∈ ·) hsources).mp hk, id⟩
      case runDevice | observationDevice | taskDevice | itemDevice | rowDevice =>
        exact ⟨hk, (congrArg (k ∈ ·) hdevices).mpr⟩
      case itemBatch | importScanBatch =>
        exact ⟨hk, (congrArg (k ∈ ·) (hbatches (·.id) fun _ => rfl)).mpr⟩
      all_goals exact ⟨hk, id⟩
  · exact fun _ hrun => hrun
  · exact fun t ht => ⟨t, ht, rfl, fun _ hr => hr⟩

end ConnectionTopology
