import ConnectionTopology.ScanQueue.Bookkeeping

/-!
# What one claim does

A claim is two passes over the task table and one over the batches. The first pass returns
every expired task to the queue, the second hands the head of the queue to the worker, as far
as its own capacity and the global limit go. The rows of a pass are moved one by one, but
since the keys are distinct the loop is a single map over the table.
-/
namespace ConnectionTopology

/-- The row after the sweep: an expired task is back in the queue without worker or lease. -/
def ScanTask.swept (now : Timestamp) (t : ScanTask) : ScanTask :=
  if t.isExpired now then { t.releaseLease with status := .pending } else t

/-- The row that a worker has claimed. -/
def ScanTask.running (workerId : String) (now leaseUntil : Timestamp) (t : ScanTask) : ScanTask :=
  { t.claimedBy workerId now leaseUntil with status := .running }

/-- The keys of the tasks that a sweep returns to the queue. -/
def Database.expiredIds (db : Database) (now : Timestamp) : List ℕ :=
  (db.scanTasks.filter (·.isExpired now)).map (·.id)

/-- The database once the expired tasks are back in the queue. -/
def Database.swept (db : Database) (now : Timestamp) : Database :=
  { db with
    scanTasks := db.scanTasks.map (·.swept now)
    scanBatchItems := db.scanBatchItems.map fun i =>
      if i.taskId ∈ db.expiredIds now then { i with status := .pending } else i }

/-- The tasks that wait once the expired ones are back. -/
def Database.waitingTasks (db : Database) (now : Timestamp) : List ScanTask :=
  (db.swept now).scanTasks.filter (·.status = .pending)

/-- The tasks that still run once the expired ones are back. -/
def Database.remainingTasks (db : Database) (now : Timestamp) : List ScanTask :=
  (db.swept now).scanTasks.filter (·.status = .running)

/-- `min(local_capacity, max(global_limit - remaining, 0))`, and no more than wait. -/
def Database.claimable (db : Database) (localCapacity globalLimit : ℤ) (now : Timestamp) : ℤ :=
  min (min localCapacity (max (globalLimit - (db.remainingTasks now).length) 0))
    (db.waitingTasks now).length

/-- The batches with an item of one of the tasks. -/
def Database.batchesOfTasks (db : Database) (taskIds : List ℕ) : List ℕ :=
  taskIds.flatMap db.itemBatchIds

/-- What a claim that returned `claimed` has made of a database. -/
structure ClaimEffect (workerId : String) (localCapacity globalLimit : ℤ) (leaseSeconds : ℕ)
    (now wall : Timestamp) (db : Database) (claimed : List ℕ) (db' : Database) : Prop where
  count : (claimed.length : ℤ) = db.claimable localCapacity globalLimit now
  first : ∃ queue : List ScanTask, queue.Perm (db.waitingTasks now) ∧ queue.Pairwise claimsBefore ∧
    claimed = (queue.take claimed.length).map (·.id)
  tasks : db'.scanTasks = db.scanTasks.map fun t =>
    if t.id ∈ claimed then
      (t.swept now).running workerId now (now + leaseSeconds * microsPerSecond)
    else t.swept now
  items : db'.scanBatchItems = db.scanBatchItems.map fun i =>
    if i.taskId ∈ claimed then { i with status := .running }
    else if i.taskId ∈ db.expiredIds now then { i with status := .pending }
    else i
  batches : db'.scanBatches = db.scanBatches.map fun b =>
    if b.id ∈ db.batchesOfTasks (db.expiredIds now ++ claimed) then refreshedBatch wall db' b
    else b
  fresh : ∀ b ∈ db'.scanBatches, b.id ∈ db.batchesOfTasks (db.expiredIds now ++ claimed) →
    BatchAgrees db' b
  others : db' = { db with
    scanTasks := db'.scanTasks
    scanBatchItems := db'.scanBatchItems
    scanBatches := db'.scanBatches }

/-! ## A loop of moves is one map -/

theorem Database.batchesOfTasks_append (db : Database) (taskIds taskIds' : List ℕ) :
    db.batchesOfTasks (taskIds ++ taskIds') =
      db.batchesOfTasks taskIds ++ db.batchesOfTasks taskIds' :=
  List.flatMap_append

/-- Items that keep their task and batch keep the batches of every task. -/
theorem itemBatchIds_of_map {db db' : Database} {g : ScanBatchItem → ScanBatchItem}
    (hitems : db'.scanBatchItems = db.scanBatchItems.map g)
    (hg : ∀ i, (g i).taskId = i.taskId ∧ (g i).batchId = i.batchId) :
    db'.itemBatchIds = db.itemBatchIds := by
  funext taskId
  simp only [Database.itemBatchIds, hitems, List.filter_map, List.map_map, Function.comp_def, hg]

theorem itemBatchIds_moveTask (db : Database) (taskId : ℕ) (status : ScanTaskStatus)
    (f : ScanTask → ScanTask) :
    (db.moveTask taskId status f).itemBatchIds = db.itemBatchIds := by
  apply itemBatchIds_of_map (moveTask_scanBatchItems db taskId status f)
  intro i
  split_ifs <;> exact ⟨rfl, rfl⟩

theorem moveTasks_eq (status : ScanTaskStatus) {f : ScanTask → ScanTask}
    (hf : ∀ t, (f t).id = t.id) :
    ∀ (taskIds : List ℕ) (acc : List ℕ × Database), taskIds.Nodup →
      moveTasks (fun taskId db => db.moveTask taskId status f) taskIds acc =
        (acc.1 ++ acc.2.batchesOfTasks taskIds, { acc.2 with
          scanTasks := acc.2.scanTasks.map fun t =>
            if t.id ∈ taskIds then { f t with status := status } else t
          scanBatchItems := acc.2.scanBatchItems.map fun i =>
            if i.taskId ∈ taskIds then { i with status := status } else i }) := by
  intro taskIds
  induction taskIds with
  | nil =>
    intro acc _
    simp [moveTasks, Database.batchesOfTasks]
  | cons taskId rest ih =>
    intro acc hnodup
    obtain ⟨hnotin, hrest⟩ := List.nodup_cons.mp hnodup
    rw [moveTasks, ih _ hrest]
    apply Prod.ext
    · simp [Database.batchesOfTasks, itemBatchIds_moveTask]
    · have htasks : ∀ t : ScanTask,
          (if (if t.id = taskId then { f t with status := status } else t).id ∈ rest then
            { f (if t.id = taskId then { f t with status := status } else t) with status := status }
          else if t.id = taskId then { f t with status := status } else t) =
          if t.id ∈ taskId :: rest then { f t with status := status } else t := by
        intro t
        by_cases hid : t.id = taskId
        · simp [hid, hf, hnotin]
        · simp [hid]
      have hitems : ∀ i : ScanBatchItem,
          (if (if i.taskId = taskId then { i with status := status } else i).taskId ∈ rest then
            { (if i.taskId = taskId then { i with status := status } else i) with status := status }
          else if i.taskId = taskId then { i with status := status } else i) =
          if i.taskId ∈ taskId :: rest then { i with status := status } else i := by
        intro i
        by_cases hid : i.taskId = taskId
        · simp [hid, hnotin]
        · simp [hid]
      simp only [moveTask_scanTasks, moveTask_scanBatchItems, List.map_map]
      simp only [Function.comp_def, htasks, hitems]
      rfl

/-! ## The sweep -/

@[simp] theorem ScanTask.swept_id (now : Timestamp) (t : ScanTask) : (t.swept now).id = t.id := by
  unfold ScanTask.swept
  split_ifs <;> rfl

theorem mem_expiredIds {db : Database} (hids : (db.scanTasks.map (·.id)).Nodup) {now : Timestamp}
    {t : ScanTask} (ht : t ∈ db.scanTasks) : t.id ∈ db.expiredIds now ↔ t.isExpired now := by
  unfold Database.expiredIds
  constructor
  · intro h
    obtain ⟨s, hs, hid⟩ := List.mem_map.mp h
    obtain ⟨hmem, hexpired⟩ := List.mem_filter.mp hs
    rw [← List.inj_on_of_nodup_map hids hmem ht hid]
    exact hexpired
  · intro h
    exact List.mem_map.mpr ⟨t, List.mem_filter.mpr ⟨ht, h⟩, rfl⟩

theorem nodup_expiredIds {db : Database} (hids : (db.scanTasks.map (·.id)).Nodup)
    (now : Timestamp) : (db.expiredIds now).Nodup :=
  (List.filter_sublist.map _).nodup hids

/-- Every task that runs after the sweep has a lease beyond `now`. -/
theorem ScanTask.isLeased_of_swept {now : Timestamp} {t : ScanTask}
    (h : (t.swept now).status = .running) : (t.swept now).isLeased now = true := by
  unfold ScanTask.swept at *
  split_ifs at h ⊢ with hexpired
  rw [ScanTask.isExpired, h] at hexpired
  unfold ScanTask.isLeased
  cases hlease : t.leaseExpiresAt with
  | none => simp [hlease] at hexpired
  | some lease => simpa [hlease] using hexpired

/-- The sweep of the claim, as one map over the table. -/
theorem moveTasks_resetExpired {db : Database} (hids : (db.scanTasks.map (·.id)).Nodup)
    (now : Timestamp) : moveTasks resetExpiredScanTask (db.expiredIds now) ([], db) =
      (db.batchesOfTasks (db.expiredIds now), db.swept now) := by
  have hkey : ∀ t : ScanTask, t.releaseLease.id = t.id := fun _ => rfl
  have hmove := moveTasks_eq .pending hkey _ ([], db) (nodup_expiredIds hids now)
  have htasks : (db.scanTasks.map fun t =>
      if t.id ∈ db.expiredIds now then { t.releaseLease with status := .pending } else t) =
      db.scanTasks.map (·.swept now) := by
    apply List.map_congr_left
    intro t ht
    simp only [mem_expiredIds hids ht, ScanTask.swept]
  rw [htasks] at hmove
  exact hmove

/-- The sweep leaves every item in its batch. -/
theorem Database.batchesOfTasks_swept (db : Database) (now : Timestamp) (taskIds : List ℕ) :
    (db.swept now).batchesOfTasks taskIds = db.batchesOfTasks taskIds := by
  have hbatches : (db.swept now).itemBatchIds = db.itemBatchIds := by
    apply itemBatchIds_of_map rfl
    intro i
    split_ifs <;> exact ⟨rfl, rfl⟩
  rw [Database.batchesOfTasks, hbatches, Database.batchesOfTasks]

/-- The count of live leases is the number of tasks that still run. -/
theorem countP_isLeased_swept (db : Database) (now : Timestamp) :
    (db.swept now).scanTasks.countP (fun t => t.status = .running && t.isLeased now) =
      (db.remainingTasks now).length := by
  rw [Database.remainingTasks, ← List.countP_eq_length_filter]
  apply List.countP_congr
  intro s hs
  obtain ⟨t, -, rfl⟩ := List.mem_map.mp hs
  simp only [Bool.and_eq_true, decide_eq_true_eq]
  constructor
  · exact fun h => h.1
  · exact fun h => ⟨h, ScanTask.isLeased_of_swept h⟩

/-! ## The head of the queue -/

theorem claimsBefore_total (a b : ScanTask) : claimsBefore a b ∨ claimsBefore b a := by
  unfold claimsBefore
  rcases lt_trichotomy a.priority b.priority with h | h | h
  · exact .inr (.inl h)
  · rcases lt_trichotomy a.createdAt b.createdAt with hc | hc | hc
    · exact .inl (.inr ⟨h, .inl hc⟩)
    · rcases le_total a.id b.id with hid | hid
      · exact .inl (.inr ⟨h, .inr ⟨hc, hid⟩⟩)
      · exact .inr (.inr ⟨h.symm, .inr ⟨hc.symm, hid⟩⟩)
    · exact .inr (.inr ⟨h.symm, .inl hc⟩)
  · exact .inl (.inl h)

theorem claimsBefore_trans {a b c : ScanTask} (hab : claimsBefore a b) (hbc : claimsBefore b c) :
    claimsBefore a c := by
  unfold claimsBefore at hab hbc ⊢
  rcases hab with hab | ⟨hpriority, hab⟩ <;> rcases hbc with hbc | ⟨hpriority', hbc⟩
  · exact .inl (lt_trans hbc hab)
  · exact .inl (hpriority' ▸ hab)
  · exact .inl (hpriority ▸ hbc)
  · refine .inr ⟨hpriority.trans hpriority', ?_⟩
    rcases hab with hab | ⟨hcreated, hab⟩ <;> rcases hbc with hbc | ⟨hcreated', hbc⟩
    · exact .inl (lt_trans hab hbc)
    · exact .inl (hcreated' ▸ hab)
    · exact .inl (hcreated ▸ hbc)
    · exact .inr ⟨hcreated.trans hcreated', le_trans hab hbc⟩

instance : Std.Total claimsBefore := ⟨claimsBefore_total⟩

instance : IsTrans ScanTask claimsBefore := ⟨fun _ _ _ => claimsBefore_trans⟩

theorem nodup_waitingIds {db : Database} (hids : (db.scanTasks.map (·.id)).Nodup)
    (now : Timestamp) : ((db.waitingTasks now).map (·.id)).Nodup := by
  have hswept : (db.scanTasks.map (·.swept now)).map (·.id) = db.scanTasks.map (·.id) := by
    rw [List.map_map]
    exact List.map_congr_left fun t _ => t.swept_id now
  have hsub := (List.filter_sublist (p := fun t : ScanTask => t.status = .pending)
    (l := db.scanTasks.map (·.swept now))).map (·.id)
  rw [hswept] at hsub
  exact hsub.nodup hids

/-- The keys of the first `limit` waiting tasks. -/
def Database.headIds (db : Database) (limit : ℤ) (now : Timestamp) : List ℕ :=
  (((db.waitingTasks now).insertionSort claimsBefore).take limit.toNat).map (·.id)

theorem nodup_headIds {db : Database} (hids : (db.scanTasks.map (·.id)).Nodup) (limit : ℤ)
    (now : Timestamp) : (db.headIds limit now).Nodup := by
  have hsub := (List.take_sublist limit.toNat
    ((db.waitingTasks now).insertionSort claimsBefore)).map fun t : ScanTask => t.id
  exact hsub.nodup (((List.perm_insertionSort _ _).map _).nodup_iff.mpr (nodup_waitingIds hids now))

theorem headIds_eq_nil (db : Database) {limit : ℤ} (now : Timestamp) (h : limit = 0) :
    db.headIds limit now = [] := by
  simp [Database.headIds, h]

/-! ## The claim -/

/-- A swept database in which the worker runs the tasks. -/
def Database.withRunning (db : Database) (workerId : String) (now leaseUntil : Timestamp)
    (taskIds : List ℕ) : Database :=
  { db with
    scanTasks := db.scanTasks.map fun t =>
      if t.id ∈ taskIds then t.running workerId now leaseUntil else t
    scanBatchItems := db.scanBatchItems.map fun i =>
      if i.taskId ∈ taskIds then { i with status := .running } else i }

theorem withRunning_swept_scanTasks (db : Database) (workerId : String) (now leaseUntil : Timestamp)
    (taskIds : List ℕ) : ((db.swept now).withRunning workerId now leaseUntil taskIds).scanTasks =
      db.scanTasks.map fun t =>
        if t.id ∈ taskIds then (t.swept now).running workerId now leaseUntil else t.swept now := by
  simp only [Database.withRunning, Database.swept, List.map_map]
  apply List.map_congr_left
  intro t _
  simp only [Function.comp_apply, ScanTask.swept_id]

theorem claimScanTasks_eq (workerId : String) {localCapacity : ℤ} (globalLimit : ℤ)
    (leaseSeconds : ℕ) (now wall : Timestamp) {db : Database}
    (hids : (db.scanTasks.map (·.id)).Nodup) (hcapacity : 0 < localCapacity) :
    let limit := min localCapacity (max (globalLimit - (db.remainingTasks now).length) 0)
    claimScanTasks workerId localCapacity globalLimit leaseSeconds now wall db =
      (db.headIds limit now, refreshScanBatches wall
        (db.batchesOfTasks (db.expiredIds now ++ db.headIds limit now))
        ((db.swept now).withRunning workerId now (now + leaseSeconds * microsPerSecond)
          (db.headIds limit now))) := by
  intro limit
  set leaseUntil := now + leaseSeconds * microsPerSecond
  have hsweep : moveTasks resetExpiredScanTask ((db.scanTasks.filter (·.isExpired now)).map (·.id))
      ([], db) = (db.batchesOfTasks (db.expiredIds now), db.swept now) :=
    moveTasks_resetExpired hids now
  have hhead : (if limit ≠ 0 then db.headIds limit now else []) = db.headIds limit now := by
    split_ifs with hlimit
    · rfl
    · exact (headIds_eq_nil db now (not_not.mp hlimit)).symm
  have hkey : ∀ t : ScanTask, (t.claimedBy workerId now leaseUntil).id = t.id := fun _ => rfl
  have hmoved : moveTasks (markScanTaskRunning workerId now leaseUntil) (db.headIds limit now)
      (db.batchesOfTasks (db.expiredIds now), db.swept now) =
      (db.batchesOfTasks (db.expiredIds now ++ db.headIds limit now),
        (db.swept now).withRunning workerId now leaseUntil (db.headIds limit now)) := by
    have hloop := moveTasks_eq .running hkey (db.headIds limit now)
      (db.batchesOfTasks (db.expiredIds now), db.swept now) (nodup_headIds hids limit now)
    rw [Database.batchesOfTasks_swept, ← Database.batchesOfTasks_append] at hloop
    exact hloop
  unfold claimScanTasks
  rw [if_neg (not_le.mpr hcapacity)]
  simp only [hsweep, countP_isLeased_swept]
  change ((if limit ≠ 0 then db.headIds limit now else []), refreshScanBatches wall
    (moveTasks (markScanTaskRunning workerId now leaseUntil)
      (if limit ≠ 0 then db.headIds limit now else []) _).1
    (moveTasks (markScanTaskRunning workerId now leaseUntil)
      (if limit ≠ 0 then db.headIds limit now else []) _).2) = _
  rw [hhead, hmoved]

/-- A claim returns the expired tasks to the queue and hands its head to the worker. -/
theorem claimScanTasks_effect (workerId : String) {localCapacity : ℤ} (globalLimit : ℤ)
    (leaseSeconds : ℕ) (now wall : Timestamp) {db : Database}
    (hids : (db.scanTasks.map (·.id)).Nodup) (hcapacity : 0 < localCapacity) :
    ClaimEffect workerId localCapacity globalLimit leaseSeconds now wall db
      (claimScanTasks workerId localCapacity globalLimit leaseSeconds now wall db).1
      (claimScanTasks workerId localCapacity globalLimit leaseSeconds now wall db).2 := by
  rw [claimScanTasks_eq workerId globalLimit leaseSeconds now wall hids hcapacity]
  set limit := min localCapacity (max (globalLimit - (db.remainingTasks now).length) 0) with hlimit
  have hperm := List.perm_insertionSort claimsBefore (db.waitingTasks now)
  have hlength : (db.headIds limit now).length = min limit.toNat (db.waitingTasks now).length := by
    rw [Database.headIds, List.length_map, List.length_take, hperm.length_eq]
  constructor
  case count =>
    rw [hlength, Database.claimable, ← hlimit, Nat.cast_min, Int.toNat_of_nonneg]
    omega
  case first =>
    refine ⟨_, hperm, List.pairwise_insertionSort _ _, ?_⟩
    rw [hlength, ← hperm.length_eq, ← List.take_eq_take_min]
    rfl
  case tasks =>
    rw [refreshScanBatches_scanTasks, withRunning_swept_scanTasks]
  case items =>
    simp only [refreshScanBatches_scanBatchItems, Database.withRunning, Database.swept,
      List.map_map]
    apply List.map_congr_left
    intro i _
    simp only [Function.comp_apply]
    split_ifs <;> rfl
  case batches =>
    rw [refreshScanBatches_scanBatches]
    apply List.map_congr_left
    intro b _
    rw [refreshedBatch_congr (refreshScanBatches_scanBatchItems wall _ _)]
  case fresh =>
    intro b hb hmem
    rcases mem_refreshScanBatches hb with hagree | ⟨-, hnot⟩
    · exact hagree.congr (by simp [Database.itemsOf])
    · exact absurd hmem hnot
  case others =>
    rw [refreshScanBatches_eq]
    rfl

/-- One task has an expired lease, one still runs and two wait. -/
def requeueingDatabase : Database where
  scanTasks := [
    { id := 1, deviceId := 1, triggerType := .manual, priority := 60, createdAt := 1,
      status := .running, workerId := some "worker-b", leaseExpiresAt := some 9 },
    { id := 2, deviceId := 2, triggerType := .manual, priority := 20, createdAt := 2,
      status := .running, workerId := some "worker-b", leaseExpiresAt := some 12 },
    { id := 3, deviceId := 3, triggerType := .manual, priority := 80, createdAt := 3 },
    { id := 4, deviceId := 4, triggerType := .manual, priority := 20, createdAt := 4 }]

/-- A worker with room for two takes the most urgent task and one that it has just put back. -/
theorem claims_requeued_task :
    (claimScanTasks "worker-a" 2 3 90 10 11 requeueingDatabase).1 = [3, 1] ∧
      ClaimEffect "worker-a" 2 3 90 10 11 requeueingDatabase
        (claimScanTasks "worker-a" 2 3 90 10 11 requeueingDatabase).1
        (claimScanTasks "worker-a" 2 3 90 10 11 requeueingDatabase).2 :=
  ⟨by decide, claimScanTasks_effect "worker-a" 3 90 10 11 (by decide) (by decide)⟩

end ConnectionTopology
