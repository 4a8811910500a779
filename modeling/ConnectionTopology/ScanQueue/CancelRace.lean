import ConnectionTopology.ScanQueue.ClaimInterleaving

/-!
# Cancelling a task that is being claimed

`cancel_device` reads the active task without a lock and later updates it by its key. If
the row is still pending when the update locks it, no claim can take it any more, and at
the commit neither it nor another task of the device is running. If a claim has committed
in between, the update overwrites a running task.
-/
namespace ConnectionTopology

/-- The update of `cancel_device` finds the task as pending as it was read. -/
def QueueState.cancelsPending (s : QueueState) : QueueAction → Bool
  | .writeCancelled n _ =>
    match s.txs[n]? with
    | some (.cancel { stage := .writing taskId, .. }) =>
      s.db.scanTasks.all fun t => t.id ≠ taskId || t.status = .pending
    | _ => true
  | _ => true

/-- The partial unique index: a device has at most one active task. -/
def OneActive (tasks : List ScanTask) : Prop :=
  ∀ t ∈ tasks, ∀ u ∈ tasks, t.deviceId = u.deviceId → t.status.isActive = true →
    u.status.isActive = true → t.id = u.id

/-! ## What a commit may change -/

/-- Tasks keep their device, and none becomes active. -/
def NoneActivated (t t' : ScanTask) : Prop :=
  t'.deviceId = t.deviceId ∧ (t'.status.isActive = true → t.status.isActive = true)

/-- Only locked rows change. -/
def TasksChange (locked : List ℕ) (before after : List ScanTask) : Prop :=
  RowLocks.Change (·.id) locked NoneActivated before after

theorem TasksChange.refl (locked : List ℕ) (tasks : List ScanTask) :
    TasksChange locked tasks tasks :=
  RowLocks.Change.refl fun _ => ⟨rfl, fun h => h⟩

theorem OneActive.change {locked : List ℕ} {before after : List ScanTask} (h : OneActive before)
    (hchange : TasksChange locked before after) : OneActive after := by
  intro t ht u hu hdevice htactive huactive
  obtain ⟨t', ht', htid, ⟨htdevice, htold⟩, -⟩ := RowLocks.Change.mem hchange ht
  obtain ⟨u', hu', huid, ⟨hudevice, huold⟩, -⟩ := RowLocks.Change.mem hchange hu
  rw [← htid, ← huid]
  exact h t' ht' u' hu' (by rw [← htdevice, ← hudevice, hdevice]) (htold htactive) (huold huactive)

/-! ## The invariant -/

/-- What is known of a row that the transaction has locked. -/
def QueueTx.RowOk (tx : QueueTx) (t : ScanTask) : Prop :=
  match tx with
  | .claim _ => t.status.isActive = true
  | .cancel c => t.status = .pending ∧ t.deviceId = c.deviceId
  | _ => True

/-- What a cancellation remembers of the task that it read. -/
def CancelTx.Knows (c : CancelTx) (tasks : List ScanTask) : Prop :=
  match c.stage with
  | .writing taskId => ∀ t ∈ tasks, t.id = taskId → t.deviceId = c.deviceId
  | .written none => ∀ t ∈ tasks, t.deviceId = c.deviceId → t.status.isActive = false
  | .written (some (taskId, _)) =>
    ∀ t ∈ tasks, t.deviceId = c.deviceId → t.status.isActive = true → t.id = taskId
  | .reading => True

structure CancelInv (s : QueueState) : Prop where
  locks : RowLocks.Inv (·.id) QueueTx.locked QueueTx.RowOk s.db.scanTasks s.txs
  one : OneActive s.db.scanTasks
  knows : ∀ c, .cancel c ∈ s.txs → c.Knows s.db.scanTasks

theorem CancelTx.Knows.change {c : CancelTx} {locked : List ℕ} {before after : List ScanTask}
    (h : c.Knows before) (hchange : TasksChange locked before after) : c.Knows after := by
  unfold CancelTx.Knows at *
  split at h
  · intro t ht hid
    obtain ⟨old, hold, holdid, ⟨hdevice, -⟩, -⟩ := RowLocks.Change.mem hchange ht
    rw [hdevice]
    exact h old hold (Eq.trans holdid hid)
  · intro t ht hdevice
    obtain ⟨old, hold, -, ⟨holddevice, hactive⟩, -⟩ := RowLocks.Change.mem hchange ht
    have hidle := h old hold (holddevice.symm.trans hdevice)
    by_contra hnow
    rw [hactive (by simpa using hnow)] at hidle
    cases hidle
  · intro t ht hdevice hactive
    obtain ⟨old, hold, holdid, ⟨holddevice, hwas⟩, -⟩ := RowLocks.Change.mem hchange ht
    exact Eq.trans (Eq.symm holdid) (h old hold (holddevice.symm.trans hdevice) (hwas hactive))
  · trivial

variable {globalLimit : ℕ} {s : QueueState}

/-- Transaction `n` moves on and changes only rows that it had locked. -/
theorem CancelInv.finish (h : CancelInv s) {n : ℕ} {old tx : QueueTx} {db : Database}
    (hn : s.txs[n]? = some old) (hchange : TasksChange old.locked s.db.scanTasks db.scanTasks)
    (hlocks : ∀ id ∈ tx.locked, id ∈ old.locked ∨ s.lockedByOther n id = false)
    (hrows : ∀ t ∈ db.scanTasks, t.id ∈ tx.locked → tx.RowOk t)
    (hknows : ∀ c, tx = .cancel c → c.Knows db.scanTasks) : CancelInv (s.finish n db tx) := by
  constructor
  case locks => exact h.locks.finish hn hchange hlocks hrows
  case one => exact h.one.change hchange
  case knows =>
    intro c hc
    rcases Machine.mem_set_cases hc with hnew | ⟨m, -, hm⟩
    · exact hknows c hnew.symm
    · exact (h.knows c (List.mem_of_getElem? hm)).change hchange

/-- The transaction ends. -/
theorem CancelInv.leave (h : CancelInv s) {n : ℕ} {old tx : QueueTx} {db : Database}
    (hn : s.txs[n]? = some old) (hchange : TasksChange old.locked s.db.scanTasks db.scanTasks)
    (hlocked : tx.locked = []) (hcancel : ∀ c, tx ≠ .cancel c) : CancelInv (s.finish n db tx) := by
  apply h.finish hn hchange
  · simp [hlocked]
  · simp [hlocked]
  · exact fun c hc => absurd hc (hcancel c)

theorem CancelInv.begin (h : CancelInv s) {tx : QueueTx} (hlocked : tx.locked = [])
    (hknows : ∀ c, tx = .cancel c → c.stage = .reading) : CancelInv (s.begin tx) := by
  constructor
  case locks => exact h.locks.begin hlocked
  case one => exact h.one
  case knows =>
    intro c hc
    rcases List.mem_append.mp hc with hold | hnew
    · exact h.knows c hold
    · simp [CancelTx.Knows, hknows c (List.mem_singleton.mp hnew).symm]

/-! ## Claims, renewals and settlements -/

theorem mem_pendingTasks {n : ℕ} {expired : List ℕ} {limit id : ℕ}
    (h : id ∈ s.pendingTasks n expired limit) : ∃ t ∈ s.db.scanTasks, t.id = id ∧
      (id ∈ expired ∨ t.status = .pending) ∧ s.lockedByOther n id = false := by
  unfold QueueState.pendingTasks at h
  obtain ⟨row, hrow, rfl⟩ := List.mem_map.mp h
  have hsorted := List.mem_of_mem_take hrow
  rw [List.mem_insertionSort, List.mem_filter] at hsorted
  obtain ⟨hswept, hpending⟩ := hsorted
  simp only [Bool.and_eq_true, decide_eq_true_eq, Bool.not_eq_true'] at hpending
  obtain ⟨t, ht, rfl⟩ := List.mem_map.mp hswept
  have hid : (if t.id ∈ expired then { t.releaseLease with status := .pending } else t).id = t.id := by
    split_ifs <;> rfl
  rw [hid] at hpending ⊢
  refine ⟨t, ht, rfl, ?_, hpending.2⟩
  by_cases hexp : t.id ∈ expired
  · exact Or.inl hexp
  · rw [if_neg hexp] at hpending
    exact Or.inr hpending.1

/-- A claim locks rows that nobody else has locked, and they are active. -/
theorem CancelInv.claim (h : CancelInv s) {n : ℕ} {c d : ClaimTx}
    (hn : s.txs[n]? = some (.claim c)) (hstep : c.step globalLimit s n = some d) :
    CancelInv (s.setTx n (.claim d)) := by
  have hmem := List.mem_of_getElem? hn
  have hheld : ∀ t ∈ s.db.scanTasks, t.id ∈ (QueueTx.claim c).locked →
      t.status.isActive = true := h.locks.knows _ hmem
  have hlocks : ∀ id ∈ (QueueTx.claim d).locked, id ∈ (QueueTx.claim c).locked ∨
      s.lockedByOther n id = false ∧ ∃ t ∈ s.db.scanTasks, t.id = id ∧ t.status.isActive = true := by
    intro id hid
    unfold ClaimTx.step at hstep
    split at hstep
    · split_ifs at hstep
      cases hstep
      simp [QueueTx.locked] at hid
    · cases hstep
      obtain ⟨t, ht, rfl⟩ := List.mem_map.mp hid
      simp only [List.mem_filter, Bool.and_eq_true, Bool.not_eq_true', ScanTask.isExpired,
        decide_eq_true_eq] at ht
      exact Or.inr ⟨ht.2.2, t, ht.1, rfl, by rw [ht.2.1.1]; rfl⟩
    · rename_i hstage
      cases hstep
      left
      simpa [QueueTx.locked, hstage] using hid
    · rename_i expired limit hstage
      cases hstep
      rcases List.mem_append.mp hid with hexp | hchosen
      · left
        simpa [QueueTx.locked, hstage] using hexp
      · obtain ⟨t, ht, rfl, hkind, hfree⟩ := mem_pendingTasks hchosen
        rcases hkind with hexp | hpending
        · left
          simpa [QueueTx.locked, hstage] using hexp
        · exact Or.inr ⟨hfree, t, ht, rfl, by rw [hpending]; rfl⟩
    · cases hstep
  apply h.finish hn (TasksChange.refl _ _)
  · intro id hid
    rcases hlocks id hid with hold | ⟨hfree, -⟩
    · exact Or.inl hold
    · exact Or.inr hfree
  · intro t ht hid
    rcases hlocks t.id hid with hold | ⟨-, u, hu, huid, hactive⟩
    · exact hheld t ht hold
    · rw [← h.locks.unique hu ht huid]
      exact hactive
  · exact fun _ hc => by cases hc

theorem tasksChange_commitClaim {c : ClaimTx} {expired chosen : List ℕ}
    (hstage : c.stage = .claiming expired chosen)
    (hactive : ∀ t ∈ s.db.scanTasks, t.id ∈ (QueueTx.claim c).locked → t.status.isActive = true) :
    TasksChange (QueueTx.claim c).locked s.db.scanTasks
      (c.commit expired chosen s.db).scanTasks := by
  have hlocked : (QueueTx.claim c).locked = expired ++ chosen := by simp [QueueTx.locked, hstage]
  rw [hlocked] at hactive ⊢
  refine ⟨_, (by simp only [ClaimTx.commit, sweptTasks, List.map_map]; exact List.Sublist.refl _), ?_⟩
  intro t ht
  have hmine := hactive t ht
  simp only [Function.comp_apply, List.mem_append] at hmine ⊢
  by_cases hexp : t.id ∈ expired <;> by_cases hchosen : t.id ∈ chosen <;>
    simp_all [ScanTask.claimedBy, ScanTask.releaseLease, NoneActivated]

theorem tasksChange_commitRenew (r : RenewTx) :
    TasksChange (QueueTx.renew r).locked s.db.scanTasks (r.commit s.db).scanTasks := by
  refine ⟨_, List.Sublist.refl _, ?_⟩
  intro t _
  by_cases hid : t.id ∈ r.renewed <;> simp [QueueTx.locked, NoneActivated, hid]

theorem tasksChange_commitSettle {t : HeldTx} {wall : Timestamp} {db : Database}
    (hholding : t.holding = true) (h : t.commit wall s.db = some db) :
    TasksChange (QueueTx.settle t).locked s.db.scanTasks db.scanTasks := by
  obtain ⟨⟨fields, mid⟩, hwrite, rfl⟩ := Option.map_eq_some_iff.mp h
  obtain ⟨htasks, -, -, -, hfields⟩ := Settlement.write_frame hwrite
  have hdone := t.settlement.status_not_active
  simp only [Database.updateTask, htasks]
  refine ⟨_, List.Sublist.refl _, ?_⟩
  intro row _
  by_cases hid : row.id = t.taskId <;>
    simp_all [QueueTx.locked, NoneActivated, ScanTask.releaseLease, hfields row]

theorem tasksChange_commitCancel {c : CancelTx} {task : Option (ℕ × Timestamp)}
    (hstage : c.stage = .written task) :
    TasksChange (QueueTx.cancel c).locked s.db.scanTasks (c.commit task s.db).scanTasks := by
  have hcancelled : ∀ taskId wall, TasksChange [taskId] s.db.scanTasks
      (s.db.updateTask taskId fun t =>
        { t with status := .cancelled, finishedAt := some wall }).scanTasks := by
    intro taskId wall
    refine ⟨_, List.Sublist.refl _, ?_⟩
    intro t _
    by_cases hid : t.id = taskId <;> simp [NoneActivated, hid, ScanTaskStatus.isActive]
  unfold CancelTx.commit
  cases task with
  | none =>
    split_ifs
    · exact RowLocks.Change.filter (TasksChange.refl _ _) _
    · exact TasksChange.refl _ _
  | some written =>
    have hlocked : (QueueTx.cancel c).locked = [written.1] := by simp [QueueTx.locked, hstage]
    rw [hlocked]
    split_ifs
    · exact RowLocks.Change.filter (hcancelled _ _) _
    · exact hcancelled _ _

theorem CancelInv.renew (h : CancelInv s) {n : ℕ} {r r' : RenewTx}
    (hn : s.txs[n]? = some (.renew r)) (hstep : r.step s n = some r') :
    CancelInv (s.setTx n (.renew r')) := by
  have hlocks : ∀ id ∈ r'.renewed, id ∈ r.renewed ∨ s.lockedByOther n id = false := by
    intro id hid
    unfold RenewTx.step at hstep
    split at hstep
    · cases hstep
      exact Or.inl hid
    · cases hstep
    · split_ifs at hstep with hother hheld
      · cases hstep
        rcases List.mem_append.mp hid with hold | hnew
        · exact Or.inl hold
        · rw [List.mem_singleton.mp hnew]
          exact Or.inr (by simpa using hother)
      · cases hstep
        exact Or.inl hid
  exact h.finish hn (TasksChange.refl _ _) hlocks (fun _ _ _ => trivial) fun _ hc => by cases hc

theorem CancelInv.lockTask (h : CancelInv s) {n : ℕ} {t : HeldTx} {tx : QueueTx}
    (hn : s.txs[n]? = some (.settle t)) (hlock : t.lock s n = some tx) :
    CancelInv (s.setTx n tx) := by
  rcases HeldTx.lock_cases hlock with rfl | ⟨task, htask, hother, rfl⟩
  · exact h.leave hn (TasksChange.refl _ _) rfl fun _ hc => by cases hc
  · have hid : task.id = t.taskId := by
      have hfound := List.find?_some htask
      simp only [Bool.and_eq_true, decide_eq_true_eq] at hfound
      exact hfound.1
    apply h.finish hn (TasksChange.refl _ _)
    · intro id hmem
      right
      simp only [QueueTx.locked, if_true, List.mem_singleton] at hmem
      rw [hmem, ← hid]
      exact hother
    · exact fun _ _ _ => trivial
    · exact fun _ hc => by cases hc

/-! ## Cancellations -/

theorem activeTask_none {db : Database} {deviceId : ℕ} (h : activeTask db deviceId = none) :
    ∀ t ∈ db.scanTasks, t.deviceId = deviceId → t.status.isActive = false := by
  intro t ht hdevice
  have hfind := List.find?_eq_none.mp h t ht
  simpa [hdevice] using hfind

theorem activeTask_some {db : Database} {deviceId : ℕ} {task : ScanTask}
    (h : activeTask db deviceId = some task) :
    task ∈ db.scanTasks ∧ task.deviceId = deviceId ∧ task.status.isActive = true := by
  have hfound := List.find?_some h
  simp only [Bool.and_eq_true, decide_eq_true_eq] at hfound
  exact ⟨List.mem_of_find?_eq_some h, hfound⟩

theorem CancelInv.readActive (h : CancelInv s) {n : ℕ} {c : CancelTx} {tx : QueueTx}
    (hn : s.txs[n]? = some (.cancel c)) (hread : c.read s = some tx) :
    CancelInv (s.setTx n tx) := by
  have hleave : ∀ tx : QueueTx, tx.locked = [] → (∀ c, tx ≠ .cancel c) → CancelInv (s.setTx n tx) :=
    fun tx => h.leave hn (TasksChange.refl _ _)
  rcases CancelTx.read_cases hread with rfl | ⟨hnone, rfl | rfl⟩ | ⟨task, htask, ⟨-, rfl⟩ | ⟨-, rfl⟩⟩
  · exact hleave .done rfl fun _ hc => by cases hc
  · apply h.finish hn (TasksChange.refl _ _)
    · simp [QueueTx.locked]
    · simp [QueueTx.locked]
    · rintro _ ⟨⟩
      exact activeTask_none hnone
  · exact hleave (.answered c.deviceId true) rfl fun _ hc => by cases hc
  · exact hleave (.answered c.deviceId false) rfl fun _ hc => by cases hc
  · obtain ⟨hmem, hdevice, -⟩ := activeTask_some htask
    apply h.finish hn (TasksChange.refl _ _)
    · simp [QueueTx.locked]
    · simp [QueueTx.locked]
    · rintro _ ⟨⟩ t ht hid
      rw [h.locks.unique ht hmem hid]
      exact hdevice

theorem CancelInv.writeCancelled (h : CancelInv s) {n : ℕ} {c : CancelTx} {wall : Timestamp}
    {tx : QueueTx} (hn : s.txs[n]? = some (.cancel c)) (hwrite : c.write s n wall = some tx)
    (hcond : s.cancelsPending (.writeCancelled n wall) = true) : CancelInv (s.setTx n tx) := by
  have hmem := List.mem_of_getElem? hn
  obtain ⟨taskId, hstage, hother, hwritten⟩ := CancelTx.write_cases hwrite
  have hknows : ∀ t ∈ s.db.scanTasks, t.id = taskId → t.deviceId = c.deviceId := by
    simpa [CancelTx.Knows, hstage] using h.knows c hmem
  have hpending : ∀ t ∈ s.db.scanTasks, t.id = taskId → t.status = .pending := by
    obtain ⟨deviceId, deletes, stage⟩ := c
    obtain rfl : stage = .writing taskId := hstage
    simp only [QueueState.cancelsPending, hn, List.all_eq_true] at hcond
    intro t ht hid
    simpa [hid] using hcond t ht
  rcases hwritten with ⟨⟨u, hu, huid⟩, rfl⟩ | rfl
  · apply h.finish hn (TasksChange.refl _ _)
    · intro id hid
      right
      simp only [QueueTx.locked, List.mem_singleton] at hid
      rw [hid]
      exact hother
    · intro t ht hid
      simp only [QueueTx.locked, List.mem_singleton] at hid
      exact ⟨hpending t ht hid, hknows t ht hid⟩
    · rintro _ ⟨⟩ t ht hdevice hactive
      rw [← huid]
      apply h.one t ht u hu _ hactive
      · rw [hpending u hu huid]
        rfl
      · rw [hknows u hu huid]
        exact hdevice
  · exact h.leave hn (TasksChange.refl _ _) rfl fun _ hc => by cases hc

/-- When a cancellation commits, its device has no running task. -/
theorem CancelInv.none_running (h : CancelInv s) {n : ℕ} {c : CancelTx}
    {task : Option (ℕ × Timestamp)} (hn : s.txs[n]? = some (.cancel c))
    (hstage : c.stage = .written task) {t : ScanTask} (ht : t ∈ s.db.scanTasks)
    (hdevice : t.deviceId = c.deviceId) : t.status ≠ .running := by
  intro hrunning
  have hmem := List.mem_of_getElem? hn
  have hactive : t.status.isActive = true := by rw [hrunning]; rfl
  have hknows := h.knows c hmem
  cases task with
  | none =>
    simp only [CancelTx.Knows, hstage] at hknows
    rw [hknows t ht hdevice] at hactive
    cases hactive
  | some written =>
    simp only [CancelTx.Knows, hstage] at hknows
    have hid := hknows t ht hdevice hactive
    have hlocked : t.id ∈ (QueueTx.cancel c).locked := by simp [QueueTx.locked, hstage, hid]
    have hpending := (h.locks.knows _ hmem t ht hlocked).1
    rw [hpending] at hrunning
    cases hrunning

/-! ## A running task is left alone -/

/-- A step neither cancels the task nor removes its device, and no `cancel_device` answers
in it that the device is free. -/
structure LeftAlone (t : ScanTask) (s s' : QueueState) : Prop where
  task : ∃ t' ∈ s'.db.scanTasks, t'.id = t.id ∧ t'.deviceId = t.deviceId ∧ t'.status ≠ .cancelled
  device : t.deviceId ∈ s.db.devices.map (·.id) → t.deviceId ∈ s'.db.devices.map (·.id)
  answer : ∀ n : ℕ, s'.txs[n]? = some (.answered t.deviceId true) →
    s.txs[n]? = some (.answered t.deviceId true)

theorem LeftAlone.finish {t : ScanTask} {n : ℕ} {db : Database} {tx : QueueTx}
    (htask : ∃ t' ∈ db.scanTasks, t'.id = t.id ∧ t'.deviceId = t.deviceId ∧ t'.status ≠ .cancelled)
    (hdevice : t.deviceId ∈ s.db.devices.map (·.id) → t.deviceId ∈ db.devices.map (·.id))
    (htx : tx ≠ .answered t.deviceId true) : LeftAlone t s (s.finish n db tx) := by
  refine ⟨htask, hdevice, ?_⟩
  intro m hm
  rcases Machine.getElem?_set_cases hm with ⟨-, hnew⟩ | ⟨-, hold⟩
  · exact absurd hnew.symm htx
  · exact hold

theorem LeftAlone.setTx {t : ScanTask} {n : ℕ} {tx : QueueTx} (ht : t ∈ s.db.scanTasks)
    (hrunning : t.status = .running) (htx : tx ≠ .answered t.deviceId true) :
    LeftAlone t s (s.setTx n tx) := by
  apply LeftAlone.finish _ (fun h => h) htx
  exact ⟨t, ht, rfl, rfl, by simp [hrunning]⟩

theorem LeftAlone.begin {t : ScanTask} {tx : QueueTx} (ht : t ∈ s.db.scanTasks)
    (hrunning : t.status = .running) (htx : tx ≠ .answered t.deviceId true) :
    LeftAlone t s (s.begin tx) := by
  refine ⟨⟨t, ht, rfl, rfl, by simp [hrunning]⟩, fun h => h, ?_⟩
  intro m hm
  rcases Machine.getElem?_append_cases hm with hold | ⟨-, hnew⟩
  · exact hold
  · exact absurd hnew.symm htx

/-- A commit that rewrites the rows of its task in place. -/
theorem LeftAlone.map {t : ScanTask} {n : ℕ} {db : Database} {f : ScanTask → ScanTask}
    (ht : t ∈ s.db.scanTasks) (htasks : db.scanTasks = s.db.scanTasks.map f)
    (hf : (f t).id = t.id ∧ (f t).deviceId = t.deviceId ∧ (f t).status ≠ .cancelled)
    (hdevices : db.devices.map (·.id) = s.db.devices.map (·.id)) :
    LeftAlone t s (s.finish n db .done) := by
  apply LeftAlone.finish
  · exact ⟨f t, htasks ▸ List.mem_map_of_mem ht, hf⟩
  · rw [hdevices]
    exact fun h => h
  · exact fun h => by cases h

theorem leftAlone_commitClaim {t : ScanTask} {n : ℕ} (c : ClaimTx) (expired chosen : List ℕ)
    (ht : t ∈ s.db.scanTasks) (hrunning : t.status = .running) :
    LeftAlone t s (s.finish n (c.commit expired chosen s.db) .done) := by
  have htasks : (c.commit expired chosen s.db).scanTasks = _ := List.map_map
  refine LeftAlone.map ht htasks ?_ rfl
  by_cases hexp : t.id ∈ expired <;> by_cases hchosen : t.id ∈ chosen <;>
    simp [hexp, hchosen, ScanTask.claimedBy, ScanTask.releaseLease, hrunning]

theorem leftAlone_commitRenew {t : ScanTask} {n : ℕ} (r : RenewTx) (ht : t ∈ s.db.scanTasks)
    (hrunning : t.status = .running) : LeftAlone t s (s.finish n (r.commit s.db) .done) := by
  have htasks : (r.commit s.db).scanTasks = _ := rfl
  refine LeftAlone.map ht htasks ?_ rfl
  by_cases hid : t.id ∈ r.renewed <;> simp [hid, hrunning]

theorem leftAlone_commitSettle {t : ScanTask} {n : ℕ} {x : HeldTx} {wall : Timestamp}
    {db : Database} (hcommit : x.commit wall s.db = some db) (ht : t ∈ s.db.scanTasks)
    (hrunning : t.status = .running) : LeftAlone t s (s.finish n db .done) := by
  obtain ⟨⟨fields, mid⟩, hwrite, rfl⟩ := Option.map_eq_some_iff.mp hcommit
  obtain ⟨htasks, -, hdevices, -, hfields⟩ := Settlement.write_frame hwrite
  have hstatus : x.settlement.status ≠ .cancelled := by
    cases x.settlement with
    | persist outcome =>
      simp only [Settlement.status, settledStatus]
      split_ifs <;> exact fun h => by cases h
    | fail => exact fun h => by cases h
  refine LeftAlone.map ht (congrArg (List.map _) htasks) ?_ hdevices
  by_cases hid : t.id = x.taskId
  · simp [hid, ScanTask.releaseLease, hstatus, hfields t]
  · simp [hid, hrunning]

theorem CancelInv.leftAlone_commitCancel (h : CancelInv s) {t : ScanTask} {n : ℕ} {c : CancelTx}
    {task : Option (ℕ × Timestamp)} (hn : s.txs[n]? = some (.cancel c))
    (hstage : c.stage = .written task) (ht : t ∈ s.db.scanTasks) (hrunning : t.status = .running) :
    LeftAlone t s (s.finish n (c.commit task s.db) (.answered c.deviceId true)) := by
  have hother : t.deviceId ≠ c.deviceId := fun hdevice => h.none_running hn hstage ht hdevice hrunning
  have hkept : t ∈ (c.commit task s.db).scanTasks := by
    have hfree : t.id ∉ (QueueTx.cancel c).locked := by
      intro hlocked
      exact hother (h.locks.knows _ (List.mem_of_getElem? hn) t ht hlocked).2
    unfold CancelTx.commit
    cases task with
    | none => split_ifs <;> simp [Database.dropDevice, ht, hother]
    | some written =>
      have hid : t.id ≠ written.1 := by simpa [QueueTx.locked, hstage] using hfree
      have hrow : t ∈ (s.db.updateTask written.1 fun t =>
          { t with status := .cancelled, finishedAt := some written.2 }).scanTasks :=
        List.mem_map.mpr ⟨t, ht, if_neg hid⟩
      split_ifs
      · exact List.mem_filter.mpr ⟨hrow, by simpa using hother⟩
      · exact hrow
  apply LeftAlone.finish
  · exact ⟨t, hkept, rfl, rfl, by simp [hrunning]⟩
  · intro hdevice
    obtain ⟨d, hd, hid⟩ := List.mem_map.mp hdevice
    refine List.mem_map.mpr ⟨d, ?_, hid⟩
    unfold CancelTx.commit
    cases task with
    | none => split_ifs <;> simp [Database.dropDevice, hd, hid, hother]
    | some written => split_ifs <;> simp [Database.dropDevice, Database.updateTask, hd, hid, hother]
  · intro he
    injection he with hdevice
    exact hother hdevice.symm

/-- An answer that the read gives is refused when the device's task is running. -/
theorem leftAlone_readActive {t : ScanTask} {n : ℕ} {c : CancelTx}
    {tx : QueueTx} (hread : c.read s = some tx) (ht : t ∈ s.db.scanTasks)
    (hrunning : t.status = .running) : LeftAlone t s (s.setTx n tx) := by
  apply LeftAlone.setTx ht hrunning
  rcases CancelTx.read_cases hread with rfl | ⟨hnone, rfl | rfl⟩ | ⟨task, htask, ⟨-, rfl⟩ | ⟨-, rfl⟩⟩
  · exact fun he => by cases he
  · exact fun he => by cases he
  · intro he
    injection he with hdevice
    have hidle := activeTask_none hnone t ht hdevice.symm
    simp [hrunning, ScanTaskStatus.isActive] at hidle
  · simp
  · exact fun he => by cases he

theorem CancelInv.step (h : CancelInv s) {a : QueueAction} {s' : QueueState}
    (hcond : s.cancelsPending a = true) (hstep : s.step globalLimit a = some s') :
    CancelInv s' ∧ ∀ t ∈ s.db.scanTasks, t.status = .running → LeftAlone t s s' := by
  cases a with
  | tick duration =>
    cases hstep
    refine ⟨⟨h.locks, h.one, h.knows⟩, fun t ht hrunning => ?_⟩
    exact ⟨⟨t, ht, rfl, rfl, by simp [hrunning]⟩, fun hd => hd, fun _ hn => hn⟩
  | beginClaim workerId localCapacity leaseSeconds =>
    simp only [QueueState.step] at hstep
    split_ifs at hstep
    cases hstep
    constructor
    · exact h.begin rfl fun _ hc => by cases hc
    · exact fun t ht hrunning => LeftAlone.begin ht hrunning fun he => by cases he
  | claim n =>
    simp only [QueueState.step] at hstep
    split at hstep
    · rename_i c hn
      obtain ⟨d, hd, rfl⟩ := Option.map_eq_some_iff.mp hstep
      constructor
      · exact h.claim hn hd
      · exact fun t ht hrunning => LeftAlone.setTx ht hrunning fun he => by cases he
    · cases hstep
  | commitClaim n =>
    simp only [QueueState.step] at hstep
    split at hstep
    · rename_i c hn
      split at hstep
      · rename_i expired chosen hstage
        cases hstep
        have hactive := h.locks.knows _ (List.mem_of_getElem? hn)
        constructor
        · exact h.leave hn (tasksChange_commitClaim hstage hactive) rfl fun _ hc => by cases hc
        · exact fun t ht hrunning => leftAlone_commitClaim c expired chosen ht hrunning
      · cases hstep
    · cases hstep
  | beginRenew workerId taskIds leaseSeconds =>
    cases hstep
    constructor
    · exact h.begin rfl fun _ hc => by cases hc
    · exact fun t ht hrunning => LeftAlone.begin ht hrunning fun he => by cases he
  | renew n =>
    simp only [QueueState.step] at hstep
    split at hstep
    · rename_i r hn
      obtain ⟨r', hr', rfl⟩ := Option.map_eq_some_iff.mp hstep
      constructor
      · exact h.renew hn hr'
      · exact fun t ht hrunning => LeftAlone.setTx ht hrunning fun he => by cases he
    · cases hstep
  | commitRenew n =>
    simp only [QueueState.step] at hstep
    split at hstep
    · rename_i r hn
      split_ifs at hstep
      cases hstep
      constructor
      · exact h.leave hn (tasksChange_commitRenew r) rfl fun _ hc => by cases hc
      · exact fun t ht hrunning => leftAlone_commitRenew r ht hrunning
    · cases hstep
  | beginSettle workerId taskId settlement =>
    cases hstep
    constructor
    · exact h.begin rfl fun _ hc => by cases hc
    · exact fun t ht hrunning => LeftAlone.begin ht hrunning fun he => by cases he
  | lockTask n =>
    simp only [QueueState.step] at hstep
    split at hstep
    · rename_i x hn
      obtain ⟨tx, hlock, rfl⟩ := Option.map_eq_some_iff.mp hstep
      refine ⟨h.lockTask hn hlock, fun t ht hrunning => LeftAlone.setTx ht hrunning ?_⟩
      rcases HeldTx.lock_cases hlock with rfl | ⟨task, -, -, rfl⟩
      · exact fun he => by cases he
      · exact fun he => by cases he
    · cases hstep
  | commitSettle n wall =>
    simp only [QueueState.step] at hstep
    split at hstep
    · rename_i x hn
      split_ifs at hstep with hholding
      obtain ⟨db, hcommit, rfl⟩ := Option.map_eq_some_iff.mp hstep
      constructor
      · exact h.leave hn (tasksChange_commitSettle hholding hcommit) rfl fun _ hc => by cases hc
      · exact fun t ht hrunning => leftAlone_commitSettle hcommit ht hrunning
    · cases hstep
  | beginCancel deviceId deletes =>
    cases hstep
    refine ⟨h.begin rfl ?_, fun t ht hrunning => LeftAlone.begin ht hrunning fun he => by cases he⟩
    rintro _ ⟨⟩
    rfl
  | readActive n =>
    simp only [QueueState.step] at hstep
    split at hstep
    · rename_i c hn
      obtain ⟨tx, hread, rfl⟩ := Option.map_eq_some_iff.mp hstep
      constructor
      · exact h.readActive hn hread
      · exact fun t ht hrunning => leftAlone_readActive hread ht hrunning
    · cases hstep
  | writeCancelled n wall =>
    simp only [QueueState.step] at hstep
    split at hstep
    · rename_i c hn
      obtain ⟨tx, hwrite, rfl⟩ := Option.map_eq_some_iff.mp hstep
      refine ⟨h.writeCancelled hn hwrite hcond, fun t ht hrunning => LeftAlone.setTx ht hrunning ?_⟩
      obtain ⟨taskId, -, -, ⟨-, rfl⟩ | rfl⟩ := CancelTx.write_cases hwrite
      · exact fun he => by cases he
      · exact fun he => by cases he
    · cases hstep
  | commitCancel n =>
    simp only [QueueState.step] at hstep
    split at hstep
    · rename_i c hn
      split at hstep
      · rename_i task hstage
        split_ifs at hstep
        cases hstep
        constructor
        · exact h.leave hn (tasksChange_commitCancel hstage) rfl fun _ hc => by cases hc
        · exact fun t ht hrunning => h.leftAlone_commitCancel hn hstage ht hrunning
      · cases hstep
    · cases hstep
  | rollback n =>
    cases hstep
    refine ⟨?_, fun t ht hrunning => LeftAlone.setTx ht hrunning fun he => by cases he⟩
    cases hn : s.txs[n]? with
    | none =>
      have hsame : s.txs.set n .done = s.txs := List.set_eq_of_length_le (by simpa using hn)
      simpa [QueueState.setTx, hsame] using h
    | some old => exact h.leave hn (TasksChange.refl _ _) rfl fun _ hc => by cases hc

/-! ## Every run -/

/-- In every run whose cancellations find the task still pending when they write, no step
cancels a running task, removes its device or reports the device as free. -/
theorem running_scan_is_left_alone {db : Database} {clock : Timestamp}
    {actions : List QueueAction} {s s' : QueueState} {a : QueueAction} {t : ScanTask}
    (hids : (db.scanTasks.map (·.id)).Nodup) (hone : OneActive db.scanTasks)
    (hmeets : Machine.Meets (QueueState.step globalLimit) (fun s a => s.cancelsPending a = true)
      { db, clock } actions)
    (hrun : Machine.run (QueueState.step globalLimit) { db, clock } actions = some s)
    (hcond : s.cancelsPending a = true) (hstep : s.step globalLimit a = some s')
    (ht : t ∈ s.db.scanTasks) (hrunning : t.status = .running) : LeftAlone t s s' := by
  have hstart : CancelInv { db, clock } := by
    constructor
    case locks => exact RowLocks.Inv.init hids
    case one => exact hone
    case knows => exact fun _ hc => absurd hc List.not_mem_nil
  have hinv := Machine.run_invariant_of_meets CancelInv
    (fun _ _ _ hinv hcond hstep => (hinv.step hcond hstep).1) actions _ s hstart hmeets hrun
  exact (hinv.step hcond hstep).2 t ht hrunning

/-- One device whose task is pending, and another. -/
def pendingScan : Database where
  devices := [{ id := 1, name := "a", host := "10.0.0.1" },
    { id := 2, name := "b", host := "10.0.0.2" }]
  scanTasks := [{ id := 1, deviceId := 1, triggerType := .manual, priority := 100 },
    { id := 2, deviceId := 2, triggerType := .scheduled, priority := 20 }]
  sequences := { scanTasks := 3, devices := 3 }

def claimOne (n : ℕ) : List QueueAction :=
  [.claim n, .claim n, .claim n, .claim n, .commitClaim n]

/-- The task of device 2 is cancelled while that of device 1 is claimed. -/
def cancelOther : List QueueAction :=
  [.beginCancel 2 false, .readActive 0, .beginClaim "w" 1 60] ++ claimOne 1 ++
    [.writeCancelled 0 5, .commitCancel 0, .beginCancel 1 true]

/-- The claim of device 1 commits between the read and the write of the cancellation. -/
def overtakenCancel (deletes : Bool) : List QueueAction :=
  [.beginCancel 1 deletes, .readActive 0, .beginClaim "w" 1 60] ++ claimOne 1 ++
    [.writeCancelled 0 5]

theorem claimed_scan_is_left_alone :
    ∃ s s' t, Machine.run (QueueState.step 30) { db := pendingScan } cancelOther = some s ∧
      s.step 30 (.readActive 2) = some s' ∧ t ∈ s.db.scanTasks ∧ t.status = .running ∧
      LeftAlone t s s' := by
  have hmeets : Machine.Meets (QueueState.step 30) (fun s a => s.cancelsPending a = true)
      { db := pendingScan } cancelOther := by decide +kernel
  have hrun : ((Machine.run (QueueState.step 30) { db := pendingScan } cancelOther).any fun s =>
      (s.step 30 (.readActive 2)).isSome && s.db.scanTasks.any (·.status = .running)) = true := by
    decide +kernel
  obtain ⟨s, hs, hrest⟩ := (Option.any_eq_true _ _).mp hrun
  obtain ⟨hnext, hany⟩ := Bool.and_eq_true_iff.mp hrest
  obtain ⟨s', hs'⟩ := Option.isSome_iff_exists.mp hnext
  obtain ⟨t, ht, hrunning⟩ := List.any_eq_true.mp hany
  have hstatus : t.status = .running := by simpa using hrunning
  have hone : OneActive pendingScan.scanTasks := by
    unfold OneActive
    decide
  exact ⟨s, s', t, hs, hs', ht, hstatus,
    running_scan_is_left_alone (by decide) hone hmeets hs rfl hs' ht hstatus⟩

/-- The task is running under a lease of sixty seconds when the cancellation commits; then it
is cancelled and the caller told so, or the device is gone. -/
theorem overtaken_cancel_takes_running_scan :
    (∃ s s', Machine.run (QueueState.step 30) { db := pendingScan } (overtakenCancel false) = some s ∧
      (s.db.scanTasks.any fun t => t.id = 1 && t.status = .running && t.isLeased s.clock) = true ∧
      s.step 30 (.commitCancel 0) = some s' ∧
      (s'.db.scanTasks.any fun t => t.id = 1 && t.status = .cancelled) = true ∧
      s'.txs[0]? = some (.answered 1 true)) ∧
    (∃ s s', Machine.run (QueueState.step 30) { db := pendingScan } (overtakenCancel true) = some s ∧
      (s.db.scanTasks.any fun t => t.id = 1 && t.status = .running && t.isLeased s.clock) = true ∧
      s.step 30 (.commitCancel 0) = some s' ∧ s'.db.devices.map (·.id) = [2]) := by
  constructor
  · exact ⟨_, _, rfl, by decide +kernel, rfl, by decide +kernel, by decide +kernel⟩
  · exact ⟨_, _, rfl, by decide +kernel, rfl, by decide +kernel⟩

end ConnectionTopology
