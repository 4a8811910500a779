import ConnectionTopology.Database.Jobs
import ConnectionTopology.Routes.ScanBatches
import ConnectionTopology.ScanQueue.BatchAdmission

/-!
# What a request for scans brings about

The queue's checks rely on keys that are distinct and on one active task for a device. Both hold
of every database that the application reaches, so a request is refused for want of room, for what
it names is gone, or it is carried out in full, whatever has happened since it read its devices.
-/
namespace ConnectionTopology

instance (queueSize : ℕ) (deviceIds : List ℕ) (db : Database) :
    Decidable (QueueOverflows queueSize deviceIds db) :=
  inferInstanceAs (Decidable (_ < _))

variable {db seen : Database} {b : Backend} {earlier meanwhile : List AppAction}

theorem Database.Sound.queueKeys (h : db.Sound) : QueueKeys db where
  devices := h.linked.distinct .devices
  tasks := h.linked.distinct .scanTasks
  taskFresh := fun _ ht => h.linked.drawn .scanTasks _ (List.mem_map_of_mem ht)
  batchFresh := fun _ hb => h.linked.drawn .scanBatches _ (List.mem_map_of_mem hb)
  itemBatch := fun _ hi => List.mem_map.mp (h.linked.linked .itemBatch (List.mem_map_of_mem hi))

theorem Seated.uniqueActiveTask (h : Seated db.seats) : db.uniqueActiveTask := by
  intro t ht u hu htask huser hdevice
  have hseat : t.seat = u.seat :=
    h.unique _ (List.mem_map_of_mem ht) _ (List.mem_map_of_mem hu) htask huser hdevice
  have hids : (db.scanTasks.map (·.id)).Nodup := by
    have hkeys := h.ids
    unfold Database.seats at hkeys
    rwa [List.map_map] at hkeys
  exact List.inj_on_of_nodup_map hids ht hu (congrArg Seat.id hseat)

theorem queueKeys_of_run (hearlier : Machine.run (appStep b) {} earlier = some seen)
    (hmeanwhile : Machine.run (appStep b) seen meanwhile = some db) :
    seen.Sound ∧ QueueKeys db ∧ db.uniqueActiveTask := by
  obtain ⟨⟨hsound, hseated⟩, -⟩ := run_answered .empty seated_empty hearlier
  obtain ⟨⟨hlater, hlaterSeated⟩, -⟩ := run_answered hsound hseated hmeanwhile
  exact ⟨hsound, hlater.queueKeys, hlaterSeated.uniqueActiveTask⟩

/-! ## Batches -/

/-- The answer to a request for a batch whose cluster, if any, is still there. -/
def BatchAnswered (queueSize : ℕ) (batchType : ScanBatchType) (deviceIds : List ℕ)
    (clusterId : Option ℕ) (db : Database) (answer : Except ApiError (ℕ × Database)) : Prop :=
  (QueueOverflows queueSize deviceIds db → answer = .error (.http 429 "扫描队列已满，请稍后重试")) ∧
    (¬ QueueOverflows queueSize deviceIds db → ∃ batchId db', answer = .ok (batchId, db') ∧
      BatchAdmitted queueSize batchType deviceIds clusterId none db batchId db')

theorem requestBatch_answered {queueSize : ℕ} {clusterId : Option ℕ} (hkeys : QueueKeys db)
    (hunique : db.uniqueActiveTask) (hcluster : ∀ k, clusterId = some k → k ∈ db.clusters.map (·.id))
    (batchType : ScanBatchType) (deviceIds : List ℕ) (wall : Timestamp) :
    BatchAnswered queueSize batchType deviceIds clusterId db
      (requestBatch queueSize batchType deviceIds clusterId wall db) := by
  have hreferences : batchReferencesOk db clusterId none = true := by
    unfold batchReferencesOk
    cases clusterId with
    | none => rfl
    | some k =>
      obtain ⟨c, hc, rfl⟩ := List.mem_map.mp (hcluster k rfl)
      simpa using ⟨c, hc, rfl⟩
  constructor
  · intro hfull
    rw [requestBatch, createBatch_of_overflow hfull]
    rfl
  · intro hroom
    obtain ⟨db', hok, hadmitted⟩ :=
      createBatch_of_room hkeys hunique hroom hreferences batchType wall
    refine ⟨_, db', ?_, hadmitted⟩
    rw [requestBatch, hok]

/-- A retry takes exactly the devices with a failed or cancelled item, as far as they are still
there and enabled; each of them ends up with one active task, in the new batch. -/
theorem retry_of_run (hearlier : Machine.run (appStep b) {} earlier = some seen)
    (hmeanwhile : Machine.run (appStep b) seen meanwhile = some db) (queueSize batchId : ℕ)
    (wall : Timestamp) :
    let answer := retryScanBatchFailures queueSize batchId seen wall db
    (batchId ∉ seen.scanBatches.map (·.id) → answer = .error (.http 404 "扫描批次不存在")) ∧
      (batchId ∈ seen.scanBatches.map (·.id) → failedItems batchId seen = [] →
        answer = .error (.http 409 "该批次当前没有失败设备")) ∧
      (failedItems batchId seen ≠ [] →
        BatchAnswered queueSize .retry (failedDeviceIds batchId seen) none db answer) := by
  intro answer
  obtain ⟨hsound, hkeys, hunique⟩ := queueKeys_of_run hearlier hmeanwhile
  have hanswer : answer = retryScanBatchFailures queueSize batchId seen wall db := rfl
  have hthere : seen.scanBatches.any (·.id = batchId) = true ↔
      batchId ∈ seen.scanBatches.map (·.id) := by
    simp
  unfold retryScanBatchFailures at hanswer
  refine ⟨fun hgone => ?_, fun hbatch hnone => ?_, fun hfailed => ?_⟩
  · rw [hanswer, if_pos (by simpa using hgone)]
  · rw [hanswer, hthere.mpr hbatch, if_neg (by simp), if_pos (failedDeviceIds_eq_nil.mpr hnone)]
  · have hbatch : batchId ∈ seen.scanBatches.map (·.id) := by
      obtain ⟨i, rest, hitems⟩ := List.exists_cons_of_ne_nil hfailed
      have hi : i ∈ failedItems batchId seen := hitems ▸ List.mem_cons_self
      obtain ⟨hmem, hi⟩ := List.mem_filter.mp hi
      have hid : i.batchId = batchId := by
        rw [Bool.and_eq_true, decide_eq_true_eq] at hi
        exact hi.1
      rw [← hid]
      exact hsound.linked.linked .itemBatch (List.mem_map_of_mem hmem)
    rw [hanswer, hthere.mpr hbatch, if_neg (by simp),
      if_neg (mt failedDeviceIds_eq_nil.mp hfailed)]
    exact requestBatch_answered hkeys hunique (by simp) .retry _ wall

/-- A batch over one device, whose scan fails. -/
def failedOnce : List AppAction :=
  [.request (.createDevice
      { name := "web-01", host := "10.0.0.10", osType := .linux, username := "root",
        password := "secret" }),
    .queue ⟨1, 1, .createBatch 10 .all [1] none none⟩,
    .queue ⟨2, 2, .claimScanTasks "w" 1 5 60⟩,
    .queue ⟨3, 3, .persistOutcome "w" 1
      ⟨1, .batch, .failed, 2, 3, [], none, some "command_timeout", some "timeout"⟩⟩]

theorem failedOnce_is_retried :
    ∃ db, Machine.run (appStep plainBackend) {} failedOnce = some db ∧
      ∃ batchId db', retryScanBatchFailures 10 1 db 5 db = .ok (batchId, db') ∧
        BatchAdmitted 10 .retry (failedDeviceIds 1 db) none none db batchId db' := by
  have hrun : ((Machine.run (appStep plainBackend) {} failedOnce).any fun db =>
      failedItems 1 db ≠ [] ∧ ¬ QueueOverflows 10 (failedDeviceIds 1 db) db) = true := by
    decide +kernel
  obtain ⟨db, hdb, hholds⟩ := (Option.any_eq_true _ _).mp hrun
  obtain ⟨hfailed, hroom⟩ := of_decide_eq_true hholds
  obtain ⟨-, -, hanswered⟩ := retry_of_run hdb (Machine.run_nil _ db) 10 1 5
  exact ⟨db, hdb, (hanswered hfailed).2 hroom⟩

/-- A batch for all devices or for a cluster takes those that the request has found enabled, as far
as they still are; a cluster that is deleted in between is an error. -/
theorem scan_batch_of_run (hearlier : Machine.run (appStep b) {} earlier = some seen)
    (hmeanwhile : Machine.run (appStep b) seen meanwhile = some db) (queueSize : ℕ)
    {p : BatchScanCreate} (haccepted : p.accepted = true) (wall : Timestamp) :
    let answer := createScanBatch queueSize p seen wall db
    (p.scope = .all → BatchAnswered queueSize .all (enabledDeviceIds none seen) none db answer) ∧
      ∀ k, p.clusterId = some k →
        (k ∉ seen.clusters.map (·.id) → answer = .error (.http 404 "集群不存在")) ∧
        (k ∈ seen.clusters.map (·.id) → k ∈ db.clusters.map (·.id) →
          BatchAnswered queueSize .cluster (enabledDeviceIds (some k) seen) (some k) db answer) ∧
        (k ∈ seen.clusters.map (·.id) → k ∉ db.clusters.map (·.id) → ∃ e, answer = .error e) := by
  intro answer
  obtain ⟨-, hkeys, hunique⟩ := queueKeys_of_run hearlier hmeanwhile
  have hanswer : answer = createScanBatch queueSize p seen wall db := rfl
  unfold createScanBatch at hanswer
  rw [haccepted, if_neg (by simp)] at hanswer
  have hscope : p.scope = .all → p.clusterId = none := by
    intro hall
    unfold BatchScanCreate.accepted at haccepted
    rw [hall, Bool.and_eq_true] at haccepted
    exact Option.isNone_iff_eq_none.mp haccepted.2
  refine ⟨fun hall => ?_, fun k hk => ?_⟩
  · rw [hanswer, hscope hall]
    exact requestBatch_answered hkeys hunique (by simp) .all _ wall
  · have hthere : seen.clusters.any (·.id = k) = true ↔ k ∈ seen.clusters.map (·.id) := by simp
    rw [hk] at hanswer
    dsimp only at hanswer
    refine ⟨fun hgone => ?_, fun hfound hstill => ?_, fun hfound hgone => ?_⟩
    · rw [hanswer, if_neg (mt hthere.mp hgone)]
    · rw [hanswer, if_pos (hthere.mpr hfound)]
      apply requestBatch_answered hkeys hunique _ .cluster _ wall
      rintro k' ⟨⟩
      exact hstill
    · rw [hanswer, if_pos (hthere.mpr hfound), requestBatch]
      by_cases hfull : QueueOverflows queueSize (enabledDeviceIds (some k) seen) db
      · rw [createBatch_of_overflow hfull]
        exact ⟨_, rfl⟩
      · have hdangling : batchReferencesOk db (some k) none = false := by
          simpa [batchReferencesOk] using hgone
        rw [createBatch_of_dangling hfull hdangling]
        exact ⟨_, rfl⟩

theorem failedOnce_is_scanned :
    ∃ db, Machine.run (appStep plainBackend) {} failedOnce = some db ∧
      BatchAnswered 10 .all (enabledDeviceIds none db) none db
        (createScanBatch 10 ⟨.all, none⟩ db 5 db) := by
  have hrun : (Machine.run (appStep plainBackend) {} failedOnce).isSome = true := by
    decide +kernel
  obtain ⟨db, hdb⟩ := Option.isSome_iff_exists.mp hrun
  exact ⟨db, hdb, (scan_batch_of_run hdb (Machine.run_nil _ db) 10 (by decide) 5).1 rfl⟩

/-! ## One device -/

theorem enqueueDevice_covered {queueSize deviceId : ℕ} (hkeys : QueueKeys db)
    (hunique : db.uniqueActiveTask)
    (hdevice : ∃ d ∈ db.devices, d.id = deviceId ∧ d.collectionEnabled = true)
    (hroom : activeTask db deviceId = none → activeCount db < queueSize) (trigger : ScanTrigger)
    (priority : ℤ) (wall : Timestamp) : ∃ task db' new,
      enqueueDevice queueSize deviceId trigger priority none wall db = .ok (task.id, db') ∧
        Covered trigger priority deviceId db new task db' := by
  obtain ⟨d, hd, rfl, henabled⟩ := hdevice
  obtain ⟨task, db', new, hreuse, hcovered⟩ :=
    reuseOrInsertTask_covered hkeys hunique hroom trigger priority wall
  refine ⟨task, db', new, ?_, hcovered⟩
  rw [enqueueDevice, enqueueInSession, Dict.find?_key_of_mem hkeys.devices hd]
  simp only [henabled, hreuse]
  rfl

/-- The task that covers a device has at least the priority of the request. -/
theorem Covered.priority_le {trigger : ScanTrigger} {priority : ℤ} {deviceId : ℕ}
    {new : List ScanTask} {task : ScanTask} {db' : Database}
    (h : Covered trigger priority deviceId db new task db') : priority ≤ task.priority := by
  obtain ⟨hmem, hdevice, hactive⟩ := h.task
  rw [h.tasks, List.mem_append] at hmem
  rcases hmem with hold | hnew
  · obtain ⟨t, ht, rfl⟩ := List.mem_map.mp hold
    obtain ⟨-, hkeep, hstatus⟩ := t.raisedFor_key [deviceId] trigger priority
    rw [hkeep] at hdevice
    rw [hstatus] at hactive
    rw [ScanTask.raisedFor, if_pos ⟨hactive, List.mem_singleton.mpr hdevice⟩]
    exact le_max_right _ _
  · exact (h.newTasks task hnew).2.1.ge

/-- A manual scan leaves the device with one active task, which is at least as urgent; the request
is refused only for a full queue, or for a device that is gone or disabled. -/
theorem manual_scan_of_run (hearlier : Machine.run (appStep b) {} earlier = some seen)
    (hmeanwhile : Machine.run (appStep b) seen meanwhile = some db) (queueSize deviceId : ℕ)
    (wall : Timestamp) :
    let answer := runScan queueSize deviceId seen wall db
    (deviceId ∉ seen.devices.map (·.id) → answer = .error (.http 404 "设备不存在")) ∧
      ∀ d ∈ seen.devices, d.id = deviceId →
        (d.collectionEnabled = false → answer = .error (.http 409 collectionDisabledMessage)) ∧
        (d.collectionEnabled = true → deviceId ∉ db.devices.map (·.id) →
          answer = .error .internal) ∧
        ∀ d' ∈ db.devices, d'.id = deviceId → d.collectionEnabled = true →
          (d'.collectionEnabled = false → answer = .error (.http 409 collectionDisabledMessage)) ∧
          (d'.collectionEnabled = true →
            (activeTask db deviceId = none ∧ queueSize ≤ activeCount db ∧
              answer = .error (.http 429 "扫描队列已满，请稍后重试")) ∨
            ∃ task db', answer = .ok (task.id, db') ∧ task ∈ db'.scanTasks ∧
              task.deviceId = deviceId ∧ task.status.isActive = true ∧
              priorityManual ≤ task.priority ∧ db'.uniqueActiveTask) := by
  intro answer
  obtain ⟨hsound, hkeys, hunique⟩ := queueKeys_of_run hearlier hmeanwhile
  have hanswer : answer = runScan queueSize deviceId seen wall db := rfl
  unfold runScan at hanswer
  constructor
  · intro hgone
    have hnone : seen.devices.find? (·.id = deviceId) = none := by simpa using hgone
    rw [hanswer, hnone]
  · rintro d hd rfl
    rw [Dict.find?_key_of_mem hsound.queueKeys.devices hd] at hanswer
    dsimp only at hanswer
    refine ⟨fun hdisabled => by rw [hanswer, hdisabled]; rfl, fun henabled hgone => ?_, ?_⟩
    · have hnone : db.devices.find? (·.id = d.id) = none := by simpa using hgone
      have hrefused : enqueueDevice queueSize d.id .manual priorityManual none wall db =
          .error .valueError := by
        rw [enqueueDevice, enqueueInSession, hnone]
      rw [hanswer, henabled, if_neg (by simp), hrefused]
      rfl
    intro d' hd' hid henabled
    have hfind : db.devices.find? (·.id = d.id) = some d' := by
      rw [← hid]
      exact Dict.find?_key_of_mem hkeys.devices hd'
    rw [henabled, if_neg (by simp)] at hanswer
    constructor
    · intro hdisabled
      have hrefused : enqueueDevice queueSize d.id .manual priorityManual none wall db =
          .error .deviceCollectionDisabled := by
        rw [enqueueDevice, enqueueInSession, hfind]
        simp only [hdisabled, if_true]
      rw [hanswer, hrefused]
    · intro hstill
      by_cases hroom : activeTask db d.id = none → activeCount db < queueSize
      · obtain ⟨task, db', new, hok, hcovered⟩ := enqueueDevice_covered hkeys hunique
          ⟨d', hd', hid, hstill⟩ hroom .manual priorityManual wall
        obtain ⟨hmem, hdevice, hactive⟩ := hcovered.task
        refine Or.inr ⟨task, db', ?_, hmem, hdevice, hactive, hcovered.priority_le, hcovered.unique⟩
        rw [hanswer, hok]
      · push Not at hroom
        obtain ⟨hidle, hfull⟩ := hroom
        have hrefused : enqueueDevice queueSize d.id .manual priorityManual none wall db =
            .error .scanQueueFull := by
          rw [enqueueDevice, enqueueInSession, hfind]
          simp only [hstill, reuseOrInsertTask, hidle, if_pos hfull]
          rfl
        refine Or.inl ⟨hidle, hfull, ?_⟩
        rw [hanswer, hrefused]
        rfl

theorem failedOnce_is_scanned_by_hand :
    ∃ db, Machine.run (appStep plainBackend) {} failedOnce = some db ∧
      ∃ task db', runScan 10 1 db 5 db = .ok (task.id, db') ∧ task ∈ db'.scanTasks ∧
        task.deviceId = 1 ∧ task.status.isActive = true ∧ priorityManual ≤ task.priority ∧
          db'.uniqueActiveTask := by
  have hrun : ((Machine.run (appStep plainBackend) {} failedOnce).any fun db =>
      activeCount db < 10 ∧ db.devices.any fun d => d.id = 1 && d.collectionEnabled) = true := by
    decide +kernel
  obtain ⟨db, hdb, hholds⟩ := (Option.any_eq_true _ _).mp hrun
  obtain ⟨hroom, hdevice⟩ := of_decide_eq_true hholds
  obtain ⟨d, hd, henabled⟩ := List.any_eq_true.mp hdevice
  rw [Bool.and_eq_true, decide_eq_true_eq] at henabled
  obtain ⟨hid, henabled⟩ := henabled
  have hanswer := (manual_scan_of_run hdb (Machine.run_nil _ db) 10 1 5).2 d hd hid
  rcases (hanswer.2.2 d hd hid henabled).2 henabled with ⟨-, hfull, -⟩ | hdone
  · exact absurd hroom (not_lt.mpr hfull)
  · exact ⟨db, hdb, hdone⟩

end ConnectionTopology
