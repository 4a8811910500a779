import ConnectionTopology.ScanQueue.Frames

/-!
# How one transaction changes the task rows

`Evolves claimant db db'` says everything the fencing argument needs about a
transaction: rows keep their key and device, terminal rows are not touched, a row
is running afterwards only if it was running under the same worker or was claimed
by `claimant`, and new rows have fresh keys. The relation composes, so each
transaction is the composition of its primitives.
-/
namespace ConnectionTopology

/-- Task keys are distinct and drawn from the sequence, and every task has its device. -/
structure TasksOk (db : Database) : Prop where
  nodup : (db.scanTasks.map (·.id)).Nodup
  fresh : ∀ t ∈ db.scanTasks, t.id < db.sequences.scanTasks
  device : ∀ t ∈ db.scanTasks, t.deviceId ∈ db.devices.map (·.id)

theorem TasksOk.unique {db : Database} (h : TasksOk db) {s t : ScanTask}
    (hs : s ∈ db.scanTasks) (ht : t ∈ db.scanTasks) (hid : s.id = t.id) : s = t :=
  List.inj_on_of_nodup_map h.nodup hs ht hid

/-- What may happen to one task row when `claimant` claims it, if anyone does. -/
structure Moves (claimant : Option String) (t t' : ScanTask) : Prop where
  id : t'.id = t.id
  device : t'.deviceId = t.deviceId
  terminal : t.status.isTerminal → t' = t
  running : t'.status = .running →
    (∃ w, claimant = some w ∧ t'.workerId = some w) ∨
      (claimant = none ∧ t.status = .running ∧ t'.workerId = t.workerId)

theorem Moves.refl (t : ScanTask) : Moves none t t :=
  ⟨rfl, rfl, fun _ => rfl, fun h => Or.inr ⟨rfl, h, rfl⟩⟩

theorem Moves.trans {c d : Option String} {t u v : ScanTask} (h : Moves c t u) (h' : Moves d u v) :
    Moves (d.or c) t v := by
  refine ⟨h'.id.trans h.id, h'.device.trans h.device, ?_, ?_⟩
  · intro ht
    have hu := h.terminal ht
    subst hu
    exact h'.terminal ht
  · intro hv
    rcases h'.running hv with ⟨w, rfl, hw⟩ | ⟨rfl, hu, hw⟩
    · exact Or.inl ⟨w, rfl, hw⟩
    · rcases h.running hu with ⟨w, rfl, hw'⟩ | ⟨rfl, ht, hw'⟩
      · exact Or.inl ⟨w, rfl, hw.trans hw'⟩
      · exact Or.inr ⟨rfl, ht, hw.trans hw'⟩

/-- The change of the task table over one transaction or part of one, and the scan
runs it created. -/
structure Evolves (claimant : ℕ → Option String) (created : List ScanRun) (db db' : Database) :
    Prop where
  tasks : ∃ (g : ScanTask → ScanTask) (new : List ScanTask),
    db'.scanTasks = db.scanTasks.map g ++ new ∧
    (∀ t ∈ db.scanTasks, Moves (claimant t.id) t (g t)) ∧
    (new.map (·.id)).Nodup ∧
    ∀ n ∈ new, db.sequences.scanTasks ≤ n.id ∧ n.id < db'.sequences.scanTasks ∧
      n.deviceId ∈ db.devices.map (·.id) ∧
      (n.status = .running → ∃ w, claimant n.id = some w ∧ n.workerId = some w)
  sequence : db.sequences.scanTasks ≤ db'.sequences.scanTasks
  devices : db'.devices.map (·.id) = db.devices.map (·.id)
  runs : db'.scanRuns = db.scanRuns ++ created

/-- Nobody claims anything. -/
def unclaimed : ℕ → Option String := fun _ => none

/-- The claims of one worker. -/
def claimedBy (workerId : String) (taskIds : List ℕ) : ℕ → Option String := fun id =>
  if id ∈ taskIds then some workerId else none

theorem Evolves.of_map {claimant : ℕ → Option String} {db db' : Database}
    (g : ScanTask → ScanTask) (htasks : db'.scanTasks = db.scanTasks.map g)
    (hmoves : ∀ t ∈ db.scanTasks, Moves (claimant t.id) t (g t))
    (hseq : db'.sequences.scanTasks = db.sequences.scanTasks)
    (hdevices : db'.devices.map (·.id) = db.devices.map (·.id))
    (hruns : db'.scanRuns = db.scanRuns) : Evolves claimant [] db db' := by
  refine ⟨⟨g, [], by simp [htasks], hmoves, by simp, by simp⟩, ?_, hdevices, by simp [hruns]⟩
  omega

theorem Evolves.of_eq {db db' : Database} (htasks : db'.scanTasks = db.scanTasks)
    (hseq : db'.sequences.scanTasks = db.sequences.scanTasks)
    (hdevices : db'.devices.map (·.id) = db.devices.map (·.id))
    (hruns : db'.scanRuns = db.scanRuns) : Evolves unclaimed [] db db' :=
  Evolves.of_map id (by simp [htasks]) (fun t _ => Moves.refl t) hseq hdevices hruns

theorem Evolves.refl (db : Database) : Evolves unclaimed [] db db :=
  Evolves.of_eq rfl rfl rfl rfl

/-- A transaction keeps the keys in order and the references in place. -/
theorem TasksOk.evolve {claimant : ℕ → Option String} {created : List ScanRun}
    {db db' : Database} (h : TasksOk db) (he : Evolves claimant created db db') : TasksOk db' := by
  obtain ⟨⟨g, new, htasks, hmoves, hnodup, hnew⟩, hseq, hdevices, -⟩ := he
  have hids : (db.scanTasks.map g).map (·.id) = db.scanTasks.map (·.id) := by
    rw [List.map_map]
    apply List.map_congr_left
    intro t ht
    exact (hmoves t ht).id
  refine ⟨?_, ?_, ?_⟩
  · rw [htasks, List.map_append, hids, List.nodup_append]
    refine ⟨h.nodup, hnodup, ?_⟩
    intro a ha b hb
    obtain ⟨t, ht, rfl⟩ := List.mem_map.mp ha
    obtain ⟨n, hn, rfl⟩ := List.mem_map.mp hb
    have := h.fresh t ht
    have := (hnew n hn).1
    omega
  · intro t ht
    rw [htasks] at ht
    rcases List.mem_append.mp ht with ht | ht
    · obtain ⟨s, hs, rfl⟩ := List.mem_map.mp ht
      have := h.fresh s hs
      rw [(hmoves s hs).id]
      omega
    · exact (hnew t ht).2.1
  · intro t ht
    rw [htasks] at ht
    rw [hdevices]
    rcases List.mem_append.mp ht with ht | ht
    · obtain ⟨s, hs, rfl⟩ := List.mem_map.mp ht
      rw [(hmoves s hs).device]
      exact h.device s hs
    · exact (hnew t ht).2.2.1

theorem Evolves.trans {c d : ℕ → Option String} {runs runs' : List ScanRun}
    {db₁ db₂ db₃ : Database} (h : Evolves c runs db₁ db₂) (h' : Evolves d runs' db₂ db₃) :
    Evolves (fun id => (d id).or (c id)) (runs ++ runs') db₁ db₃ := by
  obtain ⟨⟨g, new, htasks, hmoves, hnodup, hnew⟩, hseq, hdevices, hruns⟩ := h
  obtain ⟨⟨g', new', htasks', hmoves', hnodup', hnew'⟩, hseq', hdevices', hruns'⟩ := h'
  have hold : ∀ t ∈ db₁.scanTasks, g t ∈ db₂.scanTasks := by
    intro t ht
    rw [htasks]
    exact List.mem_append_left _ (List.mem_map_of_mem ht)
  have hmid : ∀ n ∈ new, n ∈ db₂.scanTasks := by
    intro n hn
    rw [htasks]
    exact List.mem_append_right _ hn
  refine ⟨⟨g' ∘ g, new.map g' ++ new', ?_, ?_, ?_, ?_⟩, hseq.trans hseq', hdevices'.trans hdevices,
    by rw [hruns', hruns, List.append_assoc]⟩
  · rw [htasks', htasks]
    simp
  · intro t ht
    have hsecond := hmoves' (g t) (hold t ht)
    rw [(hmoves t ht).id] at hsecond
    exact (hmoves t ht).trans hsecond
  · have hids : (new.map g').map (·.id) = new.map (·.id) := by
      rw [List.map_map]
      apply List.map_congr_left
      intro n hn
      exact (hmoves' n (hmid n hn)).id
    rw [List.map_append, hids, List.nodup_append]
    refine ⟨hnodup, hnodup', ?_⟩
    intro a ha b hb
    obtain ⟨n, hn, rfl⟩ := List.mem_map.mp ha
    obtain ⟨m, hm, rfl⟩ := List.mem_map.mp hb
    have := (hnew n hn).2.1
    have := (hnew' m hm).1
    omega
  · intro n hn
    rcases List.mem_append.mp hn with hn | hn
    · obtain ⟨m, hm, rfl⟩ := List.mem_map.mp hn
      obtain ⟨hge, hlt, hdev, hrun⟩ := hnew m hm
      have hmove := hmoves' m (hmid m hm)
      refine ⟨by rw [hmove.id]; exact hge, by rw [hmove.id]; omega, by rw [hmove.device]; exact hdev,
        ?_⟩
      intro hstatus
      rw [hmove.id]
      rcases hmove.running hstatus with ⟨w, hw, hworker⟩ | ⟨hd, hm', hworker⟩
      · exact ⟨w, by simp [hw], hworker⟩
      · obtain ⟨w, hw, hmw⟩ := hrun hm'
        exact ⟨w, by simp [hd, hw], hworker.trans hmw⟩
    · obtain ⟨hge, hlt, hdev, hrun⟩ := hnew' n hn
      refine ⟨by omega, hlt, by rw [← hdevices]; exact hdev, ?_⟩
      intro hstatus
      obtain ⟨w, hw, hworker⟩ := hrun hstatus
      exact ⟨w, by simp [hw], hworker⟩

/-- A part that claims and creates nothing may follow any other. -/
theorem Evolves.andThen {c : ℕ → Option String} {runs : List ScanRun} {db₁ db₂ db₃ : Database}
    (h : Evolves c runs db₁ db₂) (h' : Evolves unclaimed [] db₂ db₃) : Evolves c runs db₁ db₃ := by
  have hall := h.trans h'
  rwa [List.append_nil] at hall

/-- A part that claims and creates nothing may precede any other. -/
theorem Evolves.after {c : ℕ → Option String} {runs : List ScanRun} {db₁ db₂ db₃ : Database}
    (h' : Evolves c runs db₂ db₃) (h : Evolves unclaimed [] db₁ db₂) : Evolves c runs db₁ db₃ := by
  have hall := h.trans h'
  simpa [unclaimed] using hall

/-! ## Primitives -/

theorem evolves_refresh (wall : Timestamp) (ids : List ℕ) (db : Database) :
    Evolves unclaimed [] db (refreshScanBatches wall ids db) :=
  Evolves.of_eq (by simp) (by simp) (by simp) (by simp)

/-- A task that is not terminal may be moved, and only a claim starts it. -/
theorem evolves_moveTask {claimant : ℕ → Option String} {db : Database} {taskId : ℕ}
    {status : ScanTaskStatus} {f : ScanTask → ScanTask}
    (hother : ∀ id, id ≠ taskId → claimant id = none)
    (hactive : ∀ t ∈ db.scanTasks, t.id = taskId → t.status.isTerminal = false)
    (hf : ∀ t, (f t).id = t.id ∧ (f t).deviceId = t.deviceId)
    (hstart : status = .running → ∃ w, claimant taskId = some w ∧ ∀ t, (f t).workerId = some w) :
    Evolves claimant [] db (db.moveTask taskId status f) := by
  refine Evolves.of_map _ (moveTask_scanTasks db taskId status f) ?_ rfl rfl rfl
  intro t ht
  by_cases hid : t.id = taskId
  · rw [if_pos hid]
    refine ⟨(hf t).1, (hf t).2, ?_, ?_⟩
    · intro hterminal
      rw [hactive t ht hid] at hterminal
      cases hterminal
    · intro hrunning
      obtain ⟨w, hw, hworker⟩ := hstart hrunning
      exact Or.inl ⟨w, by rw [hid, hw], hworker t⟩
  · rw [if_neg hid, hother t.id hid]
    exact Moves.refl t

/-- Reused tasks only change priority and trigger. -/
theorem evolves_raisePriority {db : Database} (h : TasksOk db) {task : ScanTask}
    (htask : task ∈ db.scanTasks) (hactive : task.status.isTerminal = false)
    (trigger : ScanTrigger) (priority : ℤ) :
    Evolves unclaimed [] db (raisePriority task trigger priority db).2 := by
  unfold raisePriority
  split_ifs
  · refine Evolves.of_map _ rfl ?_ rfl rfl rfl
    intro t ht
    split_ifs with hid
    · refine ⟨rfl, rfl, ?_, fun hrunning => Or.inr ⟨rfl, hrunning, rfl⟩⟩
      intro hterminal
      rw [h.unique ht htask hid, hactive] at hterminal
      cases hterminal
    · exact Moves.refl t
  · exact Evolves.refl db

theorem evolves_insertTask {db : Database} {deviceId : ℕ}
    (hdevice : deviceId ∈ db.devices.map (·.id)) (trigger : ScanTrigger) (priority : ℤ)
    (wall : Timestamp) : Evolves unclaimed [] db (insertTask deviceId trigger priority wall db).2 := by
  refine ⟨⟨id, [(insertTask deviceId trigger priority wall db).1], by simp [insertTask],
    fun t _ => Moves.refl t, by simp, ?_⟩, by simp [insertTask], rfl, by simp [insertTask]⟩
  intro n hn
  rw [List.mem_singleton.mp hn]
  refine ⟨by simp [insertTask], by simp [insertTask], hdevice, ?_⟩
  intro hrunning
  cases hrunning

theorem activeTask_spec {db : Database} {deviceId : ℕ} {task : ScanTask}
    (h : activeTask db deviceId = some task) :
    task ∈ db.scanTasks ∧ task.deviceId = deviceId ∧ task.status.isTerminal = false := by
  have hp := List.find?_some h
  simp only [Bool.and_eq_true, decide_eq_true_eq] at hp
  exact ⟨List.mem_of_find?_eq_some h, hp.1, by simp [ScanTaskStatus.isTerminal, hp.2]⟩

theorem evolves_attachBatchItem {db db' : Database} {task : ScanTask} {batchId : ℕ}
    (hok : attachBatchItem batchId task db = .ok db') : Evolves unclaimed [] db db' := by
  unfold attachBatchItem at hok
  split_ifs at hok
  · cases hok
    exact Evolves.refl db
  · cases hok
    exact Evolves.of_eq rfl rfl rfl rfl

/-! ## Enqueuing -/

theorem evolves_enqueueInSession {db db' : Database} {task : ScanTask} (h : TasksOk db)
    {queueSize deviceId : ℕ} {trigger : ScanTrigger} {priority : ℤ} {batchId : Option ℕ}
    {wall : Timestamp}
    (hok : enqueueInSession queueSize deviceId trigger priority batchId wall db = .ok (task, db')) :
    Evolves unclaimed [] db db' := by
  unfold enqueueInSession at hok
  split at hok
  · cases hok
  · rename_i device hfind
    have hdevice : deviceId ∈ db.devices.map (·.id) :=
      List.mem_map.mpr ⟨device, List.mem_of_find?_eq_some hfind, by simpa using List.find?_some hfind⟩
    split_ifs at hok
    split at hok
    · cases hok
    · rename_i reused mid hreuse
      have hmid : Evolves unclaimed [] db mid := by
        unfold reuseOrInsertTask at hreuse
        split at hreuse
        · split_ifs at hreuse
          cases hreuse
          exact evolves_insertTask hdevice trigger priority wall
        · rename_i active hactive
          obtain ⟨hmem, -, hstatus⟩ := activeTask_spec hactive
          have hraise := evolves_raisePriority h hmem hstatus trigger priority
          rw [Except.ok.inj hreuse] at hraise
          exact hraise
      split at hok
      · cases hok
        exact hmid
      · split at hok
        · cases hok
        · rename_i attached
          cases hok
          exact hmid.andThen (evolves_attachBatchItem attached)

theorem evolves_enqueueAll {queueSize batchId : ℕ} {trigger : ScanTrigger} {priority : ℤ}
    {wall : Timestamp} : ∀ {deviceIds : List ℕ} {db db' : Database}, TasksOk db →
      enqueueAll queueSize trigger priority batchId wall deviceIds db = .ok db' →
      Evolves unclaimed [] db db' := by
  intro deviceIds
  induction deviceIds with
  | nil =>
    intro db db' _ hok
    cases hok
    exact Evolves.refl db
  | cons deviceId rest ih =>
    intro db db' h hok
    rw [enqueueAll] at hok
    split at hok
    · cases hok
    · rename_i first mid hfirst
      have hmid := evolves_enqueueInSession h hfirst
      exact hmid.andThen (ih (h.evolve hmid) hok)

theorem evolves_enqueueDevice {db db' : Database} {taskId : ℕ} (h : TasksOk db)
    {queueSize deviceId : ℕ} {trigger : ScanTrigger} {priority : ℤ} {batchId : Option ℕ}
    {wall : Timestamp}
    (hok : enqueueDevice queueSize deviceId trigger priority batchId wall db = .ok (taskId, db')) :
    Evolves unclaimed [] db db' := by
  unfold enqueueDevice at hok
  split at hok
  · cases hok
  · rename_i task mid henqueue
    have hmid := evolves_enqueueInSession h henqueue
    cases batchId with
    | none =>
      cases hok
      exact hmid
    | some batchId =>
      cases hok
      exact hmid.andThen (evolves_refresh wall _ mid)

theorem evolves_createBatchInSession {db db' : Database} {batchId : ℕ} (h : TasksOk db)
    {queueSize : ℕ} {batchType : ScanBatchType} {deviceIds : List ℕ}
    {clusterId sourceImportBatchId : Option ℕ} {wall : Timestamp}
    (hok : createBatchInSession queueSize batchType deviceIds clusterId sourceImportBatchId wall db =
      .ok (batchId, db')) : Evolves unclaimed [] db db' := by
  unfold createBatchInSession at hok
  dsimp only at hok
  split_ifs at hok
  split at hok
  · cases hok
  · rename_i mid hall
    have hinserted : Evolves unclaimed [] db
        (insertBatch batchType clusterId sourceImportBatchId wall db).2 :=
      Evolves.of_eq rfl rfl rfl rfl
    have hmid := hinserted.andThen (evolves_enqueueAll (h.evolve hinserted) hall)
    cases hok
    exact hmid.andThen (evolves_refresh wall _ mid)

theorem evolves_createImportScanBatch {db db' : Database} {batchId : Option ℕ} (h : TasksOk db)
    {queueSize importBatchId : ℕ} {wall : Timestamp}
    (hok : createImportScanBatch queueSize importBatchId wall db = .ok (batchId, db')) :
    Evolves unclaimed [] db db' := by
  unfold createImportScanBatch at hok
  split at hok
  · cases hok
    exact Evolves.refl db
  · split at hok
    · cases hok
      exact Evolves.refl db
    · split at hok
      · cases hok
      · rename_i created mid hcreate
        have hmid := evolves_createBatchInSession h hcreate
        cases hok
        exact hmid.andThen (Evolves.of_eq rfl rfl rfl rfl)

/-! ## Claims -/

/-- No row with one of these keys is terminal. -/
def NoneTerminal (taskIds : List ℕ) (db : Database) : Prop :=
  ∀ t ∈ db.scanTasks, t.id ∈ taskIds → t.status.isTerminal = false

theorem TasksOk.noneTerminal {db : Database} (h : TasksOk db) {tasks : List ScanTask}
    (hsub : ∀ t ∈ tasks, t ∈ db.scanTasks ∧ t.status.isTerminal = false) :
    NoneTerminal (tasks.map (·.id)) db := by
  intro t ht hid
  obtain ⟨s, hs, hst⟩ := List.mem_map.mp hid
  rw [← h.unique (hsub s hs).1 ht hst]
  exact (hsub s hs).2

theorem NoneTerminal.moveTask {taskIds : List ℕ} {db : Database} (h : NoneTerminal taskIds db)
    {taskId : ℕ} {status : ScanTaskStatus} (hstatus : status.isTerminal = false)
    {f : ScanTask → ScanTask} : NoneTerminal taskIds (db.moveTask taskId status f) := by
  intro t ht hid
  obtain ⟨s, hs, rfl⟩ := List.mem_map.mp ht
  split_ifs at hid ⊢ with hs'
  · exact hstatus
  · exact h s hs hid

theorem evolves_sweep : ∀ (taskIds : List ℕ) (acc : List ℕ × Database),
    NoneTerminal taskIds acc.2 →
      Evolves unclaimed [] acc.2 (moveTasks resetExpiredScanTask taskIds acc).2 := by
  intro taskIds
  induction taskIds with
  | nil => intro acc _; exact Evolves.refl acc.2
  | cons taskId rest ih =>
    intro acc h
    have hfirst : Evolves unclaimed [] acc.2 (resetExpiredScanTask taskId acc.2) := by
      refine evolves_moveTask (fun _ _ => rfl) ?_ (fun t => ⟨rfl, rfl⟩) (by simp)
      intro t ht hid
      exact h t ht (by simp [hid])
    have hnext : NoneTerminal (taskId :: rest) (resetExpiredScanTask taskId acc.2) :=
      h.moveTask rfl
    exact hfirst.andThen (ih (acc.1 ++ acc.2.itemBatchIds taskId, _)
      fun t ht hid => hnext t ht (List.mem_cons_of_mem _ hid))

theorem evolves_claim (workerId : String) (now leaseUntil : Timestamp) :
    ∀ (taskIds : List ℕ) (acc : List ℕ × Database), NoneTerminal taskIds acc.2 →
      Evolves (claimedBy workerId taskIds) [] acc.2
        (moveTasks (markScanTaskRunning workerId now leaseUntil) taskIds acc).2 := by
  intro taskIds
  induction taskIds with
  | nil =>
    intro acc _
    exact Evolves.refl acc.2
  | cons taskId rest ih =>
    intro acc h
    have hfirst : Evolves (claimedBy workerId [taskId]) [] acc.2
        (markScanTaskRunning workerId now leaseUntil taskId acc.2) := by
      refine evolves_moveTask ?_ ?_ (fun t => ⟨rfl, rfl⟩) ?_
      · intro id hid
        simp [claimedBy, hid]
      · intro t ht hid
        exact h t ht (by simp [hid])
      · intro _
        exact ⟨workerId, by simp [claimedBy], fun t => rfl⟩
    have hnext : NoneTerminal (taskId :: rest)
        (markScanTaskRunning workerId now leaseUntil taskId acc.2) := h.moveTask rfl
    have hrest := ih (acc.1 ++ acc.2.itemBatchIds taskId, _)
      fun t ht hid => hnext t ht (List.mem_cons_of_mem _ hid)
    have hunion : (fun id => (claimedBy workerId rest id).or (claimedBy workerId [taskId] id)) =
        claimedBy workerId (taskId :: rest) := by
      funext id
      by_cases hid : id = taskId <;> by_cases hrest' : id ∈ rest <;> simp [claimedBy, hid, hrest']
      all_goals simp_all
    rw [← hunion]
    exact hfirst.trans hrest

theorem evolves_claimScanTasks {db : Database} (h : TasksOk db) (workerId : String)
    (localCapacity globalLimit : ℤ) (leaseSeconds : ℕ) (now wall : Timestamp) :
    Evolves (claimedBy workerId
        (claimScanTasks workerId localCapacity globalLimit leaseSeconds now wall db).1) [] db
      (claimScanTasks workerId localCapacity globalLimit leaseSeconds now wall db).2 := by
  unfold claimScanTasks
  split_ifs
  · exact Evolves.refl db
  · have hexpired : NoneTerminal ((db.scanTasks.filter (·.isExpired now)).map (·.id)) db := by
      apply h.noneTerminal
      intro t ht
      obtain ⟨hmem, hexp⟩ := List.mem_filter.mp ht
      simp only [ScanTask.isExpired, Bool.and_eq_true, decide_eq_true_eq] at hexp
      exact ⟨hmem, by rw [hexp.1]; rfl⟩
    have hswept := evolves_sweep _ ([], db) hexpired
    dsimp only
    set swept := moveTasks resetExpiredScanTask ((db.scanTasks.filter (·.isExpired now)).map (·.id))
      ([], db)
    set claimLimit := min localCapacity (max (globalLimit -
      (swept.2.scanTasks.countP fun t => t.status = .running && t.isLeased now)) 0)
    have hpending : ∀ t ∈ ((swept.2.scanTasks.filter (·.status = .pending)).insertionSort
        claimsBefore).take claimLimit.toNat, t ∈ swept.2.scanTasks ∧ t.status.isTerminal = false := by
      intro t ht
      have hsort := List.mem_of_mem_take ht
      rw [List.mem_insertionSort, List.mem_filter] at hsort
      have hstatus : t.status = .pending := by simpa using hsort.2
      exact ⟨hsort.1, by rw [hstatus]; rfl⟩
    have hchosen : NoneTerminal (if claimLimit ≠ 0 then
        (((swept.2.scanTasks.filter (·.status = .pending)).insertionSort claimsBefore).take
          claimLimit.toNat).map (·.id) else []) swept.2 := by
      split_ifs
      · exact (h.evolve hswept).noneTerminal hpending
      · intro t _ hid
        cases hid
    have hclaimed := evolves_claim workerId now (now + leaseSeconds * microsPerSecond) _ swept hchosen
    exact (hclaimed.after hswept).andThen (evolves_refresh wall _ _)

theorem evolves_renewScanLeases {db : Database} (workerId : String) (taskIds : List ℕ)
    (leaseSeconds : ℕ) (now : Timestamp) :
    Evolves unclaimed [] db (renewScanLeases workerId taskIds leaseSeconds now db).2 := by
  unfold renewScanLeases
  split_ifs
  · exact Evolves.refl db
  · refine Evolves.of_map _ rfl ?_ rfl rfl rfl
    intro t _
    split_ifs with hrenews
    · refine ⟨rfl, rfl, ?_, fun hrunning => Or.inr ⟨rfl, hrunning, rfl⟩⟩
      intro hterminal
      simp only [Bool.and_eq_true, decide_eq_true_eq, ScanTask.isHeldBy] at hrenews
      rw [hrenews.2.1.1] at hterminal
      cases hterminal
    · exact Moves.refl t

/-! ## Settlement and cancellation -/

theorem heldTask_spec {workerId : String} {taskId : ℕ} {now : Timestamp} {db : Database}
    {task : ScanTask} (h : heldTask workerId taskId now db = some task) :
    task ∈ db.scanTasks ∧ task.id = taskId ∧ task.status = .running ∧
      task.workerId = some workerId := by
  have hp := List.find?_some h
  simp only [Bool.and_eq_true, decide_eq_true_eq, ScanTask.isHeldBy] at hp
  exact ⟨List.mem_of_find?_eq_some h, hp.1, hp.2.1.1, hp.2.1.2⟩

theorem evolves_settleTask {db : Database} (h : TasksOk db) {task : ScanTask}
    (htask : task ∈ db.scanTasks) (hrunning : task.status = .running) {status : ScanTaskStatus}
    (hstatus : status ≠ .running) {f : ScanTask → ScanTask}
    (hf : ∀ t, (f t).id = t.id ∧ (f t).deviceId = t.deviceId) (wall : Timestamp) :
    Evolves unclaimed [] db (settleTask task.id status f wall db) := by
  have hmove : Evolves unclaimed [] db (db.moveTask task.id status fun t => (f t).releaseLease) := by
    refine evolves_moveTask (fun _ _ => rfl) ?_ hf (fun h => absurd h hstatus)
    intro t ht hid
    rw [h.unique ht htask hid, hrunning]
    rfl
  exact hmove.andThen (evolves_refresh wall _ _)

theorem settledStatus_ne_running (outcome : ScanOutcome) : settledStatus outcome ≠ .running := by
  unfold settledStatus
  split_ifs <;> simp

theorem evolves_addScanOutcome {outcome : ScanOutcome} {db db' : Database} {run : ScanRun}
    (h : addScanOutcome outcome db = .ok (run, db')) : Evolves unclaimed [run] db db' := by
  obtain ⟨-, hruns, htasks, -, -, hdevices, hseq, -⟩ := addScanOutcome_ok h
  refine ⟨⟨id, [], by simp [htasks], fun t _ => Moves.refl t, by simp, by simp⟩, ?_, hdevices, hruns⟩
  omega

theorem evolves_cancelDevice {db : Database} (h : TasksOk db) (deviceId : ℕ) (wall : Timestamp) :
    Evolves unclaimed [] db (cancelDevice deviceId wall db).2 := by
  unfold cancelDevice
  split
  · exact Evolves.refl db
  · rename_i task htask
    obtain ⟨hmem, -, hstatus⟩ := activeTask_spec htask
    split_ifs
    · exact Evolves.refl db
    · refine Evolves.andThen ?_ (evolves_refresh wall _ _)
      refine evolves_moveTask (fun _ _ => rfl) ?_ (fun t => ⟨rfl, rfl⟩) (by simp)
      intro t ht hid
      rw [h.unique ht hmem hid]
      exact hstatus

end ConnectionTopology
