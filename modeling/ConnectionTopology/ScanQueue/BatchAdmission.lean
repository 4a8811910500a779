import ConnectionTopology.ScanQueue.JoinedCalls
import ConnectionTopology.ScanQueue.BatchInvariant
import ConnectionTopology.Library.Dict

/-!
# Admission of a batch

The capacity check of a batch counts the devices without an active task by a set difference,
before anything is written; every insert of the loop counts the active tasks again. Both
counts are the same, because a step of the loop adds exactly one active task for a device
without one and none for the others.
-/
namespace ConnectionTopology

/-- Device and task keys are distinct, keys are drawn from the sequences and items belong to a batch. -/
structure QueueKeys (db : Database) : Prop where
  devices : (db.devices.map (·.id)).Nodup
  tasks : (db.scanTasks.map (·.id)).Nodup
  taskFresh : ∀ t ∈ db.scanTasks, t.id < db.sequences.scanTasks
  batchFresh : ∀ b ∈ db.scanBatches, b.id < db.sequences.scanBatches
  itemBatch : ∀ i ∈ db.scanBatchItems, ∃ b ∈ db.scanBatches, b.id = i.batchId

/-- The devices of the list that have no active task. -/
def unqueued (db : Database) (deviceIds : List ℕ) : List ℕ :=
  deviceIds.filter fun id => (activeTask db id).isNone

/-- An active task of one of the devices keeps the higher of the two priorities, and the
trigger of whichever it keeps. -/
def ScanTask.raisedFor (deviceIds : List ℕ) (trigger : ScanTrigger) (priority : ℤ)
    (t : ScanTask) : ScanTask :=
  if t.status.isActive = true ∧ t.deviceId ∈ deviceIds then
    { t with
      priority := max t.priority priority
      triggerType := if t.priority < priority then trigger else t.triggerType }
  else t

section

variable {trigger : ScanTrigger} {priority : ℤ} {batchId queueSize deviceId : ℕ}
  {wall : Timestamp} {db db' : Database}

/-! ## The distinct devices, in the order of the request -/

theorem uniqueIds_append (deviceIds : List ℕ) (id : ℕ) :
    uniqueIds (deviceIds ++ [id]) =
      if id ∈ uniqueIds deviceIds then uniqueIds deviceIds else uniqueIds deviceIds ++ [id] := by
  rw [uniqueIds, List.foldl_append]
  rfl

/-- First occurrences stand in the order in which they occur. -/
theorem uniqueIds_pairwise (deviceIds : List ℕ) :
    (uniqueIds deviceIds).Pairwise fun a b => deviceIds.idxOf a < deviceIds.idxOf b := by
  induction deviceIds using List.reverseRecOn with
  | nil => exact List.Pairwise.nil
  | append_singleton deviceIds id ih =>
    have hkeep : (uniqueIds deviceIds).Pairwise fun a b =>
        (deviceIds ++ [id]).idxOf a < (deviceIds ++ [id]).idxOf b := by
      apply ih.imp_of_mem
      intro a b ha hb hab
      rw [List.idxOf_append_of_mem (mem_uniqueIds.mp ha),
        List.idxOf_append_of_mem (mem_uniqueIds.mp hb)]
      exact hab
    rw [uniqueIds_append]
    split_ifs with hid
    · exact hkeep
    · refine List.pairwise_append.mpr ⟨hkeep, List.pairwise_singleton _ _, ?_⟩
      intro a ha b hb
      rw [List.mem_singleton.mp hb]
      have ha := mem_uniqueIds.mp ha
      rw [mem_uniqueIds] at hid
      rw [List.idxOf_append_of_mem ha, List.idxOf_append_of_notMem hid]
      have := List.idxOf_lt_length_of_mem ha
      omega

theorem selectedIds_pairwise (db : Database) (deviceIds : List ℕ) :
    (selectedIds db deviceIds).Pairwise fun a b => deviceIds.idxOf a < deviceIds.idxOf b :=
  (uniqueIds_pairwise deviceIds).filter _

theorem selectedIds_nodup (db : Database) (deviceIds : List ℕ) :
    (selectedIds db deviceIds).Nodup := by
  apply (selectedIds_pairwise db deviceIds).imp
  rintro a b hab rfl
  exact lt_irrefl _ hab

/-! ## The two counts -/

theorem activeTask_eq_none :
    activeTask db deviceId = none ↔
      ∀ t ∈ db.scanTasks, t.deviceId = deviceId → t.status.isActive = false := by
  simp [activeTask, List.find?_eq_none]

/-- The set difference of the batch check counts the devices without an active task. -/
theorem newTaskCount_eq {selected : List ℕ} (hselected : selected.Nodup) :
    (selected.length : ℤ) - ((db.scanTasks.filter fun t =>
        decide (t.deviceId ∈ selected) && t.status.isActive).map (·.deviceId)).dedup.length =
      (unqueued db selected).length := by
  set active := ((db.scanTasks.filter fun t =>
    decide (t.deviceId ∈ selected) && t.status.isActive).map (·.deviceId)).dedup
  have hperm : active.Perm (selected.filter fun id => !(activeTask db id).isNone) := by
    apply (List.perm_ext_iff_of_nodup (List.nodup_dedup _) (hselected.filter _)).mpr
    intro id
    simp only [List.mem_dedup, List.mem_map, List.mem_filter, Bool.and_eq_true,
      decide_eq_true_eq, Bool.not_eq_true', Option.isNone_eq_false_iff, Option.isSome_iff_ne_none,
      ne_eq, activeTask_eq_none]
    constructor
    · rintro ⟨t, ⟨ht, hmem, hstatus⟩, rfl⟩
      refine ⟨hmem, fun h => ?_⟩
      rw [h t ht rfl] at hstatus
      cases hstatus
    · rintro ⟨hmem, hnot⟩
      push Not at hnot
      obtain ⟨t, ht, hdevice, hstatus⟩ := hnot
      exact ⟨t, ⟨ht, hdevice ▸ hmem, by simpa using hstatus⟩, hdevice⟩
  have hsplit := List.length_eq_length_filter_add (l := selected)
    fun id => (activeTask db id).isNone
  rw [unqueued]
  have hlength := hperm.length_eq
  omega

/-! ## What a loop over devices has done -/

/-- The effect of enqueuing the devices into the batch: the tasks and items that are new, and
what has become of the others. -/
structure EnqueueEffect (trigger : ScanTrigger) (priority : ℤ) (batchId : ℕ) (deviceIds : List ℕ)
    (db : Database) (new : List ScanTask) (items : List ScanBatchItem) (db' : Database) :
    Prop where
  tasks : db'.scanTasks = db.scanTasks.map (·.raisedFor deviceIds trigger priority) ++ new
  added : db'.scanBatchItems = db.scanBatchItems ++ items
  batches : db'.scanBatches = db.scanBatches
  devices : db'.devices = db.devices
  newDevices : new.map (·.deviceId) = unqueued db deviceIds
  newTasks : ∀ t ∈ new, t.status = .pending ∧ t.priority = priority ∧ t.triggerType = trigger
  itemDevices : items.map (·.deviceId) = deviceIds
  linked : ∀ i ∈ items, i.batchId = batchId ∧ ∃ t ∈ db'.scanTasks, t.id = i.taskId ∧
    t.deviceId = i.deviceId ∧ t.status.isActive = true ∧ i.status = t.status
  keys : QueueKeys db'
  unique : db'.uniqueActiveTask

@[simp] theorem ScanTask.raisedFor_key (deviceIds : List ℕ) (trigger : ScanTrigger)
    (priority : ℤ) (t : ScanTask) :
    (t.raisedFor deviceIds trigger priority).id = t.id ∧
      (t.raisedFor deviceIds trigger priority).deviceId = t.deviceId ∧
      (t.raisedFor deviceIds trigger priority).status = t.status := by
  unfold ScanTask.raisedFor
  split_ifs <;> exact ⟨rfl, rfl, rfl⟩

theorem ScanTask.raisedFor_nil (t : ScanTask) : t.raisedFor [] trigger priority = t := by
  simp [ScanTask.raisedFor]

/-- Raising twice is raising for both lists. -/
theorem ScanTask.raisedFor_append (ids ids' : List ℕ) (t : ScanTask) :
    (t.raisedFor ids trigger priority).raisedFor ids' trigger priority =
      t.raisedFor (ids ++ ids') trigger priority := by
  by_cases hactive : t.status.isActive = true
  · by_cases hmem : t.deviceId ∈ ids <;> by_cases hmem' : t.deviceId ∈ ids' <;>
      simp [ScanTask.raisedFor, hactive, hmem, hmem']
  · simp [ScanTask.raisedFor, hactive]

/-- A task with the priority of the request stays as it is. -/
theorem ScanTask.raisedFor_of_priority {ids : List ℕ} {t : ScanTask}
    (h : t.priority = priority) : t.raisedFor ids trigger priority = t := by
  subst h
  simp [ScanTask.raisedFor]

theorem unqueued_append (db : Database) (ids ids' : List ℕ) :
    unqueued db (ids ++ ids') = unqueued db ids ++ unqueued db ids' :=
  List.filter_append _ _

section Loop

variable {ids ids' : List ℕ} {db₁ db₂ : Database} {new new' : List ScanTask}
  {items items' : List ScanBatchItem}

theorem EnqueueEffect.mem_of_old (h : EnqueueEffect trigger priority batchId ids db new items db₁)
    {t : ScanTask} (ht : t ∈ db.scanTasks) : t.raisedFor ids trigger priority ∈ db₁.scanTasks := by
  rw [h.tasks]
  exact List.mem_append_left _ (List.mem_map.mpr ⟨t, ht, rfl⟩)

theorem EnqueueEffect.new_mem (h : EnqueueEffect trigger priority batchId ids db new items db₁)
    {t : ScanTask} (ht : t ∈ new) : t.deviceId ∈ ids := by
  have hmem : t.deviceId ∈ unqueued db ids := h.newDevices ▸ List.mem_map.mpr ⟨t, ht, rfl⟩
  exact (List.mem_filter.mp hmem).1

/-- The other devices have an active task exactly if they had one. -/
theorem EnqueueEffect.activeTask_isNone (h : EnqueueEffect trigger priority batchId ids db new items db₁)
    (hdevice : deviceId ∉ ids) :
    (activeTask db₁ deviceId).isNone = (activeTask db deviceId).isNone := by
  rw [Bool.eq_iff_iff, Option.isNone_iff_eq_none, Option.isNone_iff_eq_none, activeTask_eq_none,
    activeTask_eq_none, h.tasks]
  constructor
  · intro hnone t ht hid
    have hkey := t.raisedFor_key ids trigger priority
    rw [← hkey.2.2]
    exact hnone _ (List.mem_append_left _ (List.mem_map.mpr ⟨t, ht, rfl⟩)) (hkey.2.1.trans hid)
  · intro hnone t ht hid
    rcases List.mem_append.mp ht with ht | ht
    · obtain ⟨s, hs, rfl⟩ := List.mem_map.mp ht
      have hkey := s.raisedFor_key ids trigger priority
      rw [hkey.2.2]
      exact hnone s hs (hkey.2.1.symm.trans hid)
    · exact absurd (hid ▸ h.new_mem ht) hdevice

theorem EnqueueEffect.unqueued_eq (h : EnqueueEffect trigger priority batchId ids db new items db₁)
    (hdisjoint : ∀ id ∈ ids', id ∉ ids) : unqueued db₁ ids' = unqueued db ids' :=
  List.filter_congr fun _ hid => h.activeTask_isNone (hdisjoint _ hid)

/-- Every new task is active, and the others are as active as before. -/
theorem EnqueueEffect.activeCount_eq (h : EnqueueEffect trigger priority batchId ids db new items db₁) :
    activeCount db₁ = activeCount db + (unqueued db ids).length := by
  have hnew : new.countP (·.status.isActive) = new.length := by
    rw [List.countP_eq_length]
    intro t ht
    rw [(h.newTasks t ht).1]
    rfl
  have hlength := congrArg List.length h.newDevices
  rw [List.length_map] at hlength
  rw [activeCount, h.tasks, List.countP_append, List.countP_map, hnew, hlength, activeCount]
  simp [Function.comp_def]

theorem EnqueueEffect.refl (hkeys : QueueKeys db) (hunique : db.uniqueActiveTask) :
    EnqueueEffect trigger priority batchId [] db [] [] db := by
  refine ⟨?_, by simp, rfl, rfl, rfl, by simp, rfl, by simp, hkeys, hunique⟩
  simp [ScanTask.raisedFor_nil]

theorem EnqueueEffect.trans (h : EnqueueEffect trigger priority batchId ids db new items db₁)
    (h' : EnqueueEffect trigger priority batchId ids' db₁ new' items' db₂)
    (hdisjoint : ∀ id ∈ ids', id ∉ ids) :
    EnqueueEffect trigger priority batchId (ids ++ ids') db (new ++ new') (items ++ items') db₂ := by
  constructor
  case tasks =>
    have hnew : new.map (·.raisedFor ids' trigger priority) = new := by
      rw [List.map_congr_left fun t ht => ScanTask.raisedFor_of_priority (h.newTasks t ht).2.1,
        List.map_id']
    rw [h'.tasks, h.tasks, List.map_append, hnew, List.map_map, List.append_assoc]
    simp only [Function.comp_def, ScanTask.raisedFor_append]
  case added => rw [h'.added, h.added, List.append_assoc]
  case batches => rw [h'.batches, h.batches]
  case devices => rw [h'.devices, h.devices]
  case newDevices =>
    rw [List.map_append, h.newDevices, h'.newDevices, h.unqueued_eq hdisjoint, unqueued_append]
  case newTasks =>
    intro t ht
    rcases List.mem_append.mp ht with ht | ht
    · exact h.newTasks t ht
    · exact h'.newTasks t ht
  case itemDevices => rw [List.map_append, h.itemDevices, h'.itemDevices]
  case linked =>
    intro i hi
    rcases List.mem_append.mp hi with hi | hi
    · obtain ⟨hbatch, t, ht, hid, hdevice, hactive, hstatus⟩ := h.linked i hi
      obtain ⟨hkey, hkeyDevice, hkeyStatus⟩ := t.raisedFor_key ids' trigger priority
      exact ⟨hbatch, _, h'.mem_of_old ht, hkey.trans hid, hkeyDevice.trans hdevice,
        hkeyStatus ▸ hactive, hstatus.trans hkeyStatus.symm⟩
    · exact h'.linked i hi
  case keys => exact h'.keys
  case unique => exact h'.unique

end Loop

/-! ## One device -/

/-- The primary key and the unique index leave one row to raise. -/
theorem raisePriority_scanTasks (trigger : ScanTrigger) (priority : ℤ) (hkeys : QueueKeys db) (hunique : db.uniqueActiveTask)
    {task : ScanTask} (hactive : activeTask db deviceId = some task) :
    (raisePriority task trigger priority db).2.scanTasks =
        db.scanTasks.map (·.raisedFor [deviceId] trigger priority) ∧
      (raisePriority task trigger priority db).1 = task.raisedFor [deviceId] trigger priority := by
  obtain ⟨htask, hdevice, hstatus⟩ := mem_of_activeTask hactive
  have hself : task.raisedFor [deviceId] trigger priority = { task with
      priority := max task.priority priority
      triggerType := if task.priority < priority then trigger else task.triggerType } := by
    rw [ScanTask.raisedFor, if_pos ⟨hstatus, by simp [hdevice]⟩]
  have hother : ∀ t ∈ db.scanTasks, t.id ≠ task.id →
      t.raisedFor [deviceId] trigger priority = t := by
    intro t ht hid
    apply if_neg
    rintro ⟨htactive, htdevice⟩
    have heq := hunique t ht task htask htactive hstatus
      ((List.mem_singleton.mp htdevice).trans hdevice.symm)
    exact hid (congrArg (·.id) heq)
  unfold raisePriority
  split_ifs with hlower
  · refine ⟨?_, ?_⟩
    · apply List.map_congr_left
      intro t ht
      split_ifs with hid
      · rw [List.inj_on_of_nodup_map hkeys.tasks ht htask hid, hself, max_eq_right hlower.le,
          if_pos hlower]
      · exact (hother t ht hid).symm
    · rw [hself, max_eq_right hlower.le, if_pos hlower]
  · have hkeep : task.raisedFor [deviceId] trigger priority = task := by
      rw [hself, max_eq_left (not_lt.mp hlower), if_neg hlower]
    refine ⟨?_, hkeep.symm⟩
    apply (List.map_congr_left ?_).trans (List.map_id _) |>.symm
    intro t ht
    by_cases hid : t.id = task.id
    · rw [List.inj_on_of_nodup_map hkeys.tasks ht htask hid]
      exact hkeep
    · exact hother t ht hid

theorem raisePriority_frame (task : ScanTask) (trigger : ScanTrigger) (priority : ℤ)
    (db : Database) :
    (raisePriority task trigger priority db).2 =
      { db with scanTasks := (raisePriority task trigger priority db).2.scanTasks } := by
  unfold raisePriority
  split_ifs <;> rfl

/-- What either way of getting an active task of the device has done. -/
structure Covered (trigger : ScanTrigger) (priority : ℤ) (deviceId : ℕ) (db : Database)
    (new : List ScanTask) (task : ScanTask) (db' : Database) : Prop where
  tasks : db'.scanTasks = db.scanTasks.map (·.raisedFor [deviceId] trigger priority) ++ new
  items : db'.scanBatchItems = db.scanBatchItems
  batches : db'.scanBatches = db.scanBatches
  devices : db'.devices = db.devices
  newDevices : new.map (·.deviceId) = unqueued db [deviceId]
  newTasks : ∀ t ∈ new, t.status = .pending ∧ t.priority = priority ∧ t.triggerType = trigger
  task : task ∈ db'.scanTasks ∧ task.deviceId = deviceId ∧ task.status.isActive = true
  keys : QueueKeys db'
  unique : db'.uniqueActiveTask

theorem Covered.reused (hkeys : QueueKeys db) (hunique : db.uniqueActiveTask) {task : ScanTask}
    (hactive : activeTask db deviceId = some task) :
    Covered trigger priority deviceId db [] (raisePriority task trigger priority db).1
      (raisePriority task trigger priority db).2 := by
  obtain ⟨htasks, hraised⟩ :=
    raisePriority_scanTasks trigger priority hkeys hunique hactive
  obtain ⟨hmem, hdevice, hstatus⟩ := mem_of_activeTask hactive
  have hframe := raisePriority_frame task trigger priority db
  constructor
  case tasks => rw [htasks, List.append_nil]
  case items => rw [hframe]
  case batches => rw [hframe]
  case devices => rw [hframe]
  case newDevices => simp [unqueued, hactive]
  case newTasks => simp
  case task =>
    obtain ⟨-, hkeyDevice, hkeyStatus⟩ := task.raisedFor_key [deviceId] trigger priority
    rw [htasks, hraised]
    exact ⟨List.mem_map.mpr ⟨task, hmem, rfl⟩, hkeyDevice.trans hdevice, hkeyStatus ▸ hstatus⟩
  case keys =>
    rw [hframe, htasks]
    refine ⟨hkeys.devices, ?_, ?_, hkeys.batchFresh, hkeys.itemBatch⟩
    · simpa [Function.comp_def] using hkeys.tasks
    · intro t ht
      obtain ⟨s, hs, rfl⟩ := List.mem_map.mp ht
      rw [(s.raisedFor_key _ _ _).1]
      exact hkeys.taskFresh s hs
  case unique =>
    intro t ht u hu htactive huactive hsame
    rw [htasks] at ht hu
    obtain ⟨t', ht', rfl⟩ := List.mem_map.mp ht
    obtain ⟨u', hu', rfl⟩ := List.mem_map.mp hu
    simp only [ScanTask.raisedFor_key] at htactive huactive hsame
    rw [hunique t' ht' u' hu' htactive huactive hsame]

theorem Covered.inserted (hkeys : QueueKeys db) (hunique : db.uniqueActiveTask)
    (hnone : activeTask db deviceId = none) (wall : Timestamp) :
    Covered trigger priority deviceId db [(insertTask deviceId trigger priority wall db).1]
      (insertTask deviceId trigger priority wall db).1
      (insertTask deviceId trigger priority wall db).2 := by
  have hidle := activeTask_eq_none.mp hnone
  have hkeep : db.scanTasks.map (·.raisedFor [deviceId] trigger priority) = db.scanTasks := by
    apply (List.map_congr_left ?_).trans (List.map_id _)
    intro t ht
    apply if_neg
    rintro ⟨hactive, hdevice⟩
    rw [hidle t ht (List.mem_singleton.mp hdevice)] at hactive
    cases hactive
  constructor
  case tasks => rw [hkeep]; rfl
  case items => rfl
  case batches => rfl
  case devices => rfl
  case newDevices => simp [unqueued, hnone, insertTask]
  case newTasks => simp [insertTask]
  case task => exact ⟨by simp [insertTask], rfl, rfl⟩
  case keys =>
    refine ⟨hkeys.devices, ?_, ?_, hkeys.batchFresh, hkeys.itemBatch⟩
    · have hfresh : ∀ t ∈ db.scanTasks, t.id ≠ db.sequences.scanTasks :=
        fun t ht => (hkeys.taskFresh t ht).ne
      simpa [insertTask, List.nodup_append, hkeys.tasks] using hfresh
    · intro t ht
      simp only [insertTask, List.mem_append, List.mem_singleton] at ht ⊢
      rcases ht with ht | rfl
      · exact Nat.lt_succ_of_lt (hkeys.taskFresh t ht)
      · exact Nat.lt_succ_self _
  case unique =>
    have hnew : ∀ t ∈ db.scanTasks, t.status.isActive = true → t.deviceId ≠ deviceId := by
      intro t ht hactive hdevice
      rw [hidle t ht hdevice] at hactive
      cases hactive
    intro t ht u hu htactive huactive hsame
    simp only [insertTask, List.mem_append, List.mem_singleton] at ht hu
    rcases ht with ht | rfl <;> rcases hu with hu | rfl
    · exact hunique t ht u hu htactive huactive hsame
    · exact absurd hsame (hnew t ht htactive)
    · exact absurd hsame.symm (hnew u hu huactive)
    · rfl

/-- With room for a task the device does not have yet, it has one afterwards. -/
theorem reuseOrInsertTask_covered (hkeys : QueueKeys db) (hunique : db.uniqueActiveTask)
    (hroom : activeTask db deviceId = none → activeCount db < queueSize)
    (trigger : ScanTrigger) (priority : ℤ) (wall : Timestamp) : ∃ task db₁ new,
      reuseOrInsertTask queueSize deviceId trigger priority wall db = .ok (task, db₁) ∧
        Covered trigger priority deviceId db new task db₁ := by
  unfold reuseOrInsertTask
  cases hactive : activeTask db deviceId with
  | none =>
    have hroom := not_le.mpr (hroom hactive)
    simp only [if_neg hroom]
    exact ⟨_, _, _, rfl, .inserted hkeys hunique hactive wall⟩
  | some task => exact ⟨_, _, _, rfl, .reused hkeys hunique hactive⟩

/-- One device of the loop: it is enabled, the batch has no item for it yet, and the queue has
room for a task that it does not have. -/
theorem enqueueInSession_enqueued (hkeys : QueueKeys db) (hunique : db.uniqueActiveTask)
    (hdevice : ∃ d ∈ db.devices, d.id = deviceId ∧ d.collectionEnabled = true)
    (hbatch : ∃ b ∈ db.scanBatches, b.id = batchId)
    (hfree : ∀ i ∈ db.scanBatchItems, i.batchId = batchId → i.deviceId ≠ deviceId)
    (hroom : activeTask db deviceId = none → activeCount db < queueSize)
    (trigger : ScanTrigger) (priority : ℤ) (wall : Timestamp) : ∃ task db₁ new item,
      enqueueInSession queueSize deviceId trigger priority (some batchId) wall db =
          .ok (task, db₁) ∧
        EnqueueEffect trigger priority batchId [deviceId] db new [item] db₁ := by
  obtain ⟨d, hd, hid, henabled⟩ := hdevice
  have hfind : db.devices.find? (·.id = deviceId) = some d := by
    rw [← hid]
    exact Dict.find?_key_of_mem hkeys.devices hd
  obtain ⟨task, db₁, new, hreuse, hcovered⟩ :=
    reuseOrInsertTask_covered hkeys hunique hroom trigger priority wall
  obtain ⟨htask, htaskDevice, htaskActive⟩ := hcovered.task
  have hnoItem : ¬ (db₁.scanBatchItems.any fun i =>
      i.batchId = batchId && i.deviceId = task.deviceId) = true := by
    rw [hcovered.items, htaskDevice]
    simpa using hfree
  set item : ScanBatchItem :=
    { batchId := batchId, taskId := task.id, deviceId := task.deviceId, status := task.status }
  have hattach : attachBatchItem batchId task db₁ =
      .ok { db₁ with scanBatchItems := db₁.scanBatchItems ++ [item] } := by
    rw [attachBatchItem, if_neg hnoItem, if_pos]
    rw [hcovered.batches]
    simpa using hbatch
  refine ⟨task, { db₁ with scanBatchItems := db₁.scanBatchItems ++ [item] }, new, item, ?_, ?_⟩
  · rw [enqueueInSession, hfind]
    simp only [henabled, hreuse, hattach]
    rfl
  · constructor
    case tasks => exact hcovered.tasks
    case added => rw [hcovered.items]
    case batches => exact hcovered.batches
    case devices => exact hcovered.devices
    case newDevices => exact hcovered.newDevices
    case newTasks => exact hcovered.newTasks
    case itemDevices => exact congrArg ([·]) htaskDevice
    case linked =>
      intro i hi
      rw [List.mem_singleton.mp hi]
      exact ⟨rfl, task, htask, rfl, rfl, htaskActive, rfl⟩
    case keys =>
      refine ⟨hcovered.keys.devices, hcovered.keys.tasks, hcovered.keys.taskFresh,
        hcovered.keys.batchFresh, ?_⟩
      intro i hi
      rcases List.mem_append.mp hi with hi | hi
      · exact hcovered.keys.itemBatch i hi
      · rw [List.mem_singleton.mp hi, hcovered.batches]
        exact hbatch
    case unique => exact hcovered.unique

/-! ## The loop -/

/-- What the loop needs at its start: enabled devices, a batch that is there and has no items of
theirs, and room for the tasks that they do not have. -/
structure Admissible (queueSize batchId : ℕ) (deviceIds : List ℕ) (db : Database) : Prop where
  keys : QueueKeys db
  unique : db.uniqueActiveTask
  nodup : deviceIds.Nodup
  enabled : ∀ id ∈ deviceIds, ∃ d ∈ db.devices, d.id = id ∧ d.collectionEnabled = true
  batch : ∃ b ∈ db.scanBatches, b.id = batchId
  free : ∀ i ∈ db.scanBatchItems, i.batchId = batchId → i.deviceId ∉ deviceIds
  room : activeCount db + (unqueued db deviceIds).length ≤ queueSize

/-- The devices that are done take nothing away from those that are left. -/
theorem Admissible.after {ids ids' : List ℕ} {new : List ScanTask} {items : List ScanBatchItem}
    (h : Admissible queueSize batchId (ids ++ ids') db)
    (hdone : EnqueueEffect trigger priority batchId ids db new items db') :
    Admissible queueSize batchId ids' db' := by
  obtain ⟨-, hnodup, hdisjoint⟩ := List.nodup_append.mp h.nodup
  have hapart : ∀ id ∈ ids', id ∉ ids := fun id hid hmem => hdisjoint id hmem id hid rfl
  constructor
  case keys => exact hdone.keys
  case unique => exact hdone.unique
  case nodup => exact hnodup
  case enabled =>
    rw [hdone.devices]
    exact fun id hid => h.enabled id (List.mem_append_right _ hid)
  case batch =>
    rw [hdone.batches]
    exact h.batch
  case free =>
    intro i hi hbatch hmem
    rw [hdone.added] at hi
    rcases List.mem_append.mp hi with hi | hi
    · exact h.free i hi hbatch (List.mem_append_right _ hmem)
    · have hid : i.deviceId ∈ ids := hdone.itemDevices ▸ List.mem_map.mpr ⟨i, hi, rfl⟩
      exact hapart _ hmem hid
  case room =>
    have hroom := h.room
    rw [unqueued_append, List.length_append] at hroom
    rw [hdone.activeCount_eq, hdone.unqueued_eq hapart]
    omega

/-- A loop over fewer devices is admissible too. -/
theorem Admissible.left {ids ids' : List ℕ} (h : Admissible queueSize batchId (ids ++ ids') db) :
    Admissible queueSize batchId ids db := by
  refine ⟨h.keys, h.unique, (List.nodup_append.mp h.nodup).1, ?_, h.batch, ?_, ?_⟩
  · exact fun id hid => h.enabled id (List.mem_append_left _ hid)
  · exact fun i hi hbatch hmem => h.free i hi hbatch (List.mem_append_left _ hmem)
  · have hroom := h.room
    rw [unqueued_append, List.length_append] at hroom
    omega

/-- The next device of an admissible loop is enqueued: the check of the batch has made room. -/
theorem Admissible.next {rest : List ℕ}
    (h : Admissible queueSize batchId (deviceId :: rest) db) (trigger : ScanTrigger)
    (priority : ℤ) (wall : Timestamp) : ∃ task db₁ new item,
      enqueueInSession queueSize deviceId trigger priority (some batchId) wall db =
          .ok (task, db₁) ∧
        EnqueueEffect trigger priority batchId [deviceId] db new [item] db₁ := by
  apply enqueueInSession_enqueued h.keys h.unique (h.enabled deviceId (by simp)) h.batch
  · intro i hi hbatch hdevice
    exact h.free i hi hbatch (by simp [hdevice])
  · intro hnone
    have hroom := h.room
    simp only [unqueued, List.filter_cons, hnone, Option.isNone_none, if_true,
      List.length_cons] at hroom
    omega

theorem Admissible.enqueueAll {deviceIds : List ℕ}
    (h : Admissible queueSize batchId deviceIds db) (trigger : ScanTrigger) (priority : ℤ)
    (wall : Timestamp) : ∃ db' new items,
      enqueueAll queueSize trigger priority batchId wall deviceIds db = .ok db' ∧
        EnqueueEffect trigger priority batchId deviceIds db new items db' := by
  induction deviceIds generalizing db with
  | nil => exact ⟨db, [], [], rfl, .refl h.keys h.unique⟩
  | cons deviceId rest ih =>
    obtain ⟨task, db₁, new, item, hfirst, hone⟩ := h.next trigger priority wall
    obtain ⟨db₂, new', items, hrest, hmany⟩ := ih (Admissible.after h hone)
    refine ⟨db₂, new ++ new', [item] ++ items, ?_, hone.trans hmany ?_⟩
    · rw [ConnectionTopology.enqueueAll, hfirst]
      exact hrest
    · intro id hid hmem
      rw [List.mem_singleton.mp hmem] at hid
      exact (List.nodup_cons.mp h.nodup).1 hid

/-! ## Admission -/

/-- The queue has no room for the selected devices that are not queued yet. -/
def QueueOverflows (queueSize : ℕ) (deviceIds : List ℕ) (db : Database) : Prop :=
  queueSize < activeCount db + (unqueued db (selectedIds db deviceIds)).length

/-- An admitted batch: one new row, an item for every distinct enabled device of the request in
the order of the request, each of the single active task of its device. -/
structure BatchAdmitted (queueSize : ℕ) (batchType : ScanBatchType) (deviceIds : List ℕ)
    (clusterId sourceImportBatchId : Option ℕ) (db : Database) (batchId : ℕ) (db' : Database) :
    Prop where
  batch : ∃ b, db'.scanBatches = db.scanBatches ++ [b] ∧ b.id = batchId ∧
    b.batchType = batchType ∧ b.clusterId = clusterId ∧
    b.sourceImportBatchId = sourceImportBatchId ∧ BatchAgrees db' b
  items : db'.scanBatchItems = db.scanBatchItems ++ db'.itemsOf batchId
  order : ((db'.itemsOf batchId).map (·.deviceId)).Pairwise fun a b =>
    deviceIds.idxOf a < deviceIds.idxOf b
  devices : ∀ id, id ∈ (db'.itemsOf batchId).map (·.deviceId) ↔
    id ∈ deviceIds ∧ ∃ d ∈ db.devices, d.id = id ∧ d.collectionEnabled = true
  linked : ∀ i ∈ db'.itemsOf batchId, ∃ t ∈ db'.scanTasks, t.id = i.taskId ∧
    t.deviceId = i.deviceId ∧ t.status.isActive = true ∧ i.status = t.status
  unique : db'.uniqueActiveTask
  tasks : ∃ new : List ScanTask, db'.scanTasks = db.scanTasks.map (·.raisedFor
      (selectedIds db deviceIds) (batchTriggerAndPriority batchType).1
      (batchTriggerAndPriority batchType).2) ++ new ∧
    new.map (·.deviceId) = unqueued db (selectedIds db deviceIds) ∧
    ∀ t ∈ new, t.status = .pending ∧ t.priority = (batchTriggerAndPriority batchType).2 ∧
      t.triggerType = (batchTriggerAndPriority batchType).1
  bound : activeCount db' ≤ queueSize

variable {deviceIds : List ℕ} {batchType : ScanBatchType}
  {clusterId sourceImportBatchId : Option ℕ}

/-- A batch that passes its check starts an admissible loop. -/
theorem QueueKeys.admissible (hkeys : QueueKeys db) (hunique : db.uniqueActiveTask)
    (hroom : ¬ QueueOverflows queueSize deviceIds db) (batchType : ScanBatchType)
    (clusterId sourceImportBatchId : Option ℕ) (wall : Timestamp) :
    Admissible queueSize db.sequences.scanBatches (selectedIds db deviceIds)
      (insertBatch batchType clusterId sourceImportBatchId wall db).2 := by
  constructor
  case keys =>
    refine ⟨hkeys.devices, hkeys.tasks, hkeys.taskFresh, ?_, ?_⟩
    · intro b hb
      rcases List.mem_append.mp hb with hb | hb
      · exact Nat.lt_succ_of_lt (hkeys.batchFresh b hb)
      · rw [List.mem_singleton.mp hb]
        exact Nat.lt_succ_self _
    · intro i hi
      obtain ⟨b, hb, hid⟩ := hkeys.itemBatch i hi
      exact ⟨b, List.mem_append_left _ hb, hid⟩
  case unique => exact hunique
  case nodup => exact selectedIds_nodup db deviceIds
  case enabled => exact fun id hid => (mem_selectedIds.mp hid).2
  case batch => exact ⟨_, List.mem_append_right _ (List.mem_singleton_self _), rfl⟩
  case free =>
    intro i hi hbatch
    obtain ⟨b, hb, hid⟩ := hkeys.itemBatch i hi
    exact absurd (hid.trans hbatch) (hkeys.batchFresh b hb).ne
  case room => exact not_lt.mp hroom

theorem refreshedBatch_references (wall : Timestamp) (db : Database) (b : ScanBatch) :
    (refreshedBatch wall db b).batchType = b.batchType ∧
      (refreshedBatch wall db b).clusterId = b.clusterId ∧
      (refreshedBatch wall db b).sourceImportBatchId = b.sourceImportBatchId := by
  unfold refreshedBatch
  dsimp only
  split_ifs <;> exact ⟨rfl, rfl, rfl⟩

/-- The loop and the refresh make an admitted batch. -/
theorem batchAdmitted (hkeys : QueueKeys db) {new : List ScanTask} {items : List ScanBatchItem}
    (hloop : EnqueueEffect (batchTriggerAndPriority batchType).1 (batchTriggerAndPriority batchType).2
      db.sequences.scanBatches (selectedIds db deviceIds)
      (insertBatch batchType clusterId sourceImportBatchId wall db).2 new items db')
    (hroom : ¬ QueueOverflows queueSize deviceIds db) :
    BatchAdmitted queueSize batchType deviceIds clusterId sourceImportBatchId db
      db.sequences.scanBatches (refreshScanBatches wall [db.sequences.scanBatches] db') := by
  set batchId := db.sequences.scanBatches
  set final := refreshScanBatches wall [batchId] db' with hfinal
  have hfinalItems : final.scanBatchItems = db.scanBatchItems ++ items := by
    rw [hfinal, refreshScanBatches_scanBatchItems, hloop.added]
    rfl
  have hold : ∀ i ∈ db.scanBatchItems, i.batchId ≠ batchId := by
    intro i hi
    obtain ⟨b, hb, hid⟩ := hkeys.itemBatch i hi
    exact hid ▸ (hkeys.batchFresh b hb).ne
  have hitems : final.itemsOf batchId = items := by
    rw [Database.itemsOf, hfinalItems, List.filter_append, List.filter_eq_nil_iff.mpr (by simpa),
      List.filter_eq_self.mpr fun i hi => by simpa using (hloop.linked i hi).1, List.nil_append]
  have hbatches : final.scanBatches = db.scanBatches ++
      [refreshedBatch wall db' (insertBatch batchType clusterId sourceImportBatchId wall db).1] := by
    have hkeep : ∀ b ∈ db.scanBatches, b.id ∉ [batchId] := by
      intro b hb hid
      exact (hkeys.batchFresh b hb).ne (List.mem_singleton.mp hid)
    rw [hfinal, refreshScanBatches_scanBatches, hloop.batches]
    simp only [insertBatch, List.map_append, List.map_cons, List.map_nil]
    rw [List.map_congr_left fun b hb => if_neg (hkeep b hb), List.map_id', if_pos (by simp [batchId])]
  constructor
  case batch =>
    obtain ⟨hid, -⟩ := refreshedBatch_counters wall db'
      (insertBatch batchType clusterId sourceImportBatchId wall db).1
    obtain ⟨htype, hcluster, hsource⟩ := refreshedBatch_references wall db'
      (insertBatch batchType clusterId sourceImportBatchId wall db).1
    exact ⟨_, hbatches, hid, htype, hcluster, hsource,
      (refreshedBatch_agrees wall db' _).congr (by simp [Database.itemsOf, hfinal])⟩
  case items =>
    rw [hitems, hfinalItems]
  case order =>
    rw [hitems, hloop.itemDevices]
    exact selectedIds_pairwise db deviceIds
  case devices =>
    intro id
    rw [hitems, hloop.itemDevices]
    exact mem_selectedIds
  case linked =>
    intro i hi
    rw [hitems] at hi
    rw [hfinal, refreshScanBatches_scanTasks]
    exact (hloop.linked i hi).2
  case unique => simpa [Database.uniqueActiveTask, hfinal] using hloop.unique
  case tasks =>
    refine ⟨new, ?_, hloop.newDevices, hloop.newTasks⟩
    rw [hfinal, refreshScanBatches_scanTasks, hloop.tasks]
    rfl
  case bound =>
    have hcount := hloop.activeCount_eq
    have hfits := not_lt.mp hroom
    rw [activeCount, hfinal, refreshScanBatches_scanTasks]
    exact hcount.trans_le hfits

/-! ## The three outcomes -/

theorem queueOverflows_iff (deviceIds : List ℕ) :
    QueueOverflows queueSize deviceIds db ↔
      (activeCount db : ℤ) + (((selectedIds db deviceIds).length : ℤ) -
        ((db.scanTasks.filter fun t =>
          decide (t.deviceId ∈ selectedIds db deviceIds) && t.status.isActive).map
            (·.deviceId)).dedup.length) > queueSize := by
  rw [newTaskCount_eq (selectedIds_nodup db deviceIds), QueueOverflows]
  omega

theorem createBatch_of_overflow (h : QueueOverflows queueSize deviceIds db) :
    createBatch queueSize batchType deviceIds clusterId sourceImportBatchId wall db =
      .error .scanQueueFull := by
  rw [queueOverflows_iff] at h
  rw [createBatch, createBatchInSession, if_pos h]

theorem createBatch_of_dangling (h : ¬ QueueOverflows queueSize deviceIds db)
    (hreferences : batchReferencesOk db clusterId sourceImportBatchId = false) :
    createBatch queueSize batchType deviceIds clusterId sourceImportBatchId wall db =
      .error .integrityError := by
  rw [queueOverflows_iff] at h
  rw [createBatch, createBatchInSession, if_neg h, if_pos (by simp [hreferences])]

theorem createBatch_of_room (hkeys : QueueKeys db) (hunique : db.uniqueActiveTask)
    (h : ¬ QueueOverflows queueSize deviceIds db)
    (hreferences : batchReferencesOk db clusterId sourceImportBatchId = true)
    (batchType : ScanBatchType) (wall : Timestamp) : ∃ db',
      createBatch queueSize batchType deviceIds clusterId sourceImportBatchId wall db =
          .ok (db.sequences.scanBatches, db') ∧
        BatchAdmitted queueSize batchType deviceIds clusterId sourceImportBatchId db
          db.sequences.scanBatches db' := by
  obtain ⟨mid, new, items, hall, hloop⟩ := (hkeys.admissible hunique h batchType clusterId
    sourceImportBatchId wall).enqueueAll (batchTriggerAndPriority batchType).1
      (batchTriggerAndPriority batchType).2 wall
  refine ⟨_, ?_, batchAdmitted hkeys hloop h⟩
  rw [queueOverflows_iff] at h
  rw [createBatch, createBatchInSession, if_neg h, if_neg (by simp [hreferences])]
  simp only [insertBatch] at hall ⊢
  rw [hall]

/-- The check inside the loop finds room for every device that the check of the batch let in. -/
theorem enqueueInSession_of_room (hkeys : QueueKeys db) (hunique : db.uniqueActiveTask)
    (h : ¬ QueueOverflows queueSize deviceIds db) (trigger : ScanTrigger) (priority : ℤ)
    {done rest : List ℕ} (hselected : selectedIds db deviceIds = done ++ deviceId :: rest)
    (hdone : enqueueAll queueSize trigger priority db.sequences.scanBatches wall done
      (insertBatch batchType clusterId sourceImportBatchId wall db).2 = .ok db') :
    ∃ result, enqueueInSession queueSize deviceId trigger priority
      (some db.sequences.scanBatches) wall db' = .ok result := by
  have hstart := hkeys.admissible hunique h batchType clusterId sourceImportBatchId wall
  rw [hselected] at hstart
  obtain ⟨mid, new, items, hall, hloop⟩ := hstart.left.enqueueAll trigger priority wall
  rw [hdone] at hall
  cases hall
  obtain ⟨task, db₁, new', item, hnext, -⟩ := (hstart.after hloop).next trigger priority wall
  exact ⟨_, hnext⟩

end

/-- Either the check of the batch refuses it and nothing is written, or the batch is admitted
with its items and the queue keeps its bound; the check inside the loop never fails. A batch
for a cluster or an import that is not there is refused by the database. -/
theorem createBatch_admission {db : Database} (hkeys : QueueKeys db)
    (hunique : db.uniqueActiveTask) (queueSize : ℕ) (batchType : ScanBatchType)
    (deviceIds : List ℕ) (clusterId sourceImportBatchId : Option ℕ) (now wall : Timestamp) :
    let outcome := perform ⟨now, wall,
      .createBatch queueSize batchType deviceIds clusterId sourceImportBatchId⟩ db
    let (trigger, priority) := batchTriggerAndPriority batchType
    (outcome.1 = .raised .scanQueueFull ↔ QueueOverflows queueSize deviceIds db) ∧
    (∀ error, outcome.1 = .raised error → outcome.2 = db) ∧
    (¬ QueueOverflows queueSize deviceIds db →
      (batchReferencesOk db clusterId sourceImportBatchId = true → ∃ batchId,
        outcome.1 = .batch (some batchId) ∧ BatchAdmitted queueSize batchType deviceIds clusterId
          sourceImportBatchId db batchId outcome.2) ∧
      (batchReferencesOk db clusterId sourceImportBatchId = false →
        outcome.1 = .raised .integrityError) ∧
      ∀ done deviceId rest db', selectedIds db deviceIds = done ++ deviceId :: rest →
        enqueueAll queueSize trigger priority db.sequences.scanBatches wall done
          (insertBatch batchType clusterId sourceImportBatchId wall db).2 = .ok db' →
        ∃ result, enqueueInSession queueSize deviceId trigger priority
          (some db.sequences.scanBatches) wall db' = .ok result) := by
  intro outcome
  have hfull : QueueOverflows queueSize deviceIds db → outcome.1 = .raised .scanQueueFull := by
    intro h
    simp only [outcome, perform, createBatch_of_overflow h, Reply.commit]
  have hdangling : ¬ QueueOverflows queueSize deviceIds db →
      batchReferencesOk db clusterId sourceImportBatchId = false →
      outcome.1 = .raised .integrityError := by
    intro h hreferences
    simp only [outcome, perform, createBatch_of_dangling h hreferences, Reply.commit]
  have hroom : ¬ QueueOverflows queueSize deviceIds db →
      batchReferencesOk db clusterId sourceImportBatchId = true → ∃ batchId,
        outcome.1 = .batch (some batchId) ∧ BatchAdmitted queueSize batchType deviceIds clusterId
          sourceImportBatchId db batchId outcome.2 := by
    intro h hreferences
    obtain ⟨db', hcreate, hadmitted⟩ := createBatch_of_room hkeys hunique h hreferences batchType wall
    simp only [outcome, perform, hcreate, Reply.commit]
    exact ⟨_, rfl, hadmitted⟩
  refine ⟨⟨?_, hfull⟩, ?_, ?_⟩
  · intro hraised
    by_contra h
    cases hreferences : batchReferencesOk db clusterId sourceImportBatchId with
    | true =>
      obtain ⟨batchId, hbatch, -⟩ := hroom h hreferences
      rw [hraised] at hbatch
      cases hbatch
    | false =>
      rw [hdangling h hreferences] at hraised
      cases hraised
  · intro error hraised
    simp only [outcome, perform] at hraised ⊢
    cases hresult : createBatch queueSize batchType deviceIds clusterId sourceImportBatchId wall db with
    | error e => rfl
    | ok result =>
      rw [hresult] at hraised
      cases hraised
  · intro h
    refine ⟨hroom h, hdangling h, ?_⟩
    intro done deviceId rest db' hselected hdone
    exact enqueueInSession_of_room hkeys hunique h _ _ hselected hdone

/-- Two devices are enabled, the second has a scheduled task, and the third is disabled. -/
def partlyQueuedDatabase : Database where
  devices := [{ id := 1, name := "web-01", host := "10.0.0.10" },
    { id := 2, name := "web-02", host := "10.0.0.11" },
    { id := 3, name := "web-03", host := "10.0.0.12", collectionEnabled := false }]
  scanTasks := [{ id := 0, deviceId := 2, triggerType := .scheduled, priority := 20,
                  createdAt := 1 }]
  sequences := { scanTasks := 1 }

/-- A request that repeats a device, names an unknown one and fills the queue. -/
theorem partly_queued_batch_admitted : ∃ batchId db',
    perform ⟨5, 5, .createBatch 2 .all [2, 1, 2, 9, 3] none none⟩ partlyQueuedDatabase =
        (.batch (some batchId), db') ∧
      BatchAdmitted 2 .all [2, 1, 2, 9, 3] none none partlyQueuedDatabase batchId db' := by
  have hkeys : QueueKeys partlyQueuedDatabase := by
    refine ⟨?_, ?_, ?_, ?_, ?_⟩ <;> simp [partlyQueuedDatabase]
  have hroom : ¬ QueueOverflows 2 [2, 1, 2, 9, 3] partlyQueuedDatabase := by
    unfold QueueOverflows
    decide
  obtain ⟨-, -, hadmits⟩ := createBatch_admission hkeys (by decide) 2 .all [2, 1, 2, 9, 3] none none
    5 5
  obtain ⟨batchId, hbatch, hadmitted⟩ := (hadmits hroom).1 (by decide)
  exact ⟨batchId, _, Prod.ext hbatch rfl, hadmitted⟩

end ConnectionTopology
