import ConnectionTopology.ScanQueue.ClaimInterleaving

/-!
# The global limit on running scans

A claim counts the live leases once and then fills what is left of the limit. A renewal
that commits in between must not bring a lease back to life that the count has passed over:
its row was locked and skipped by the sweep, and its old lease had run out. Every run in
which no renewal commits after the lease it extends keeps the limit; one that does so
breaks it.
-/
namespace ConnectionTopology

/-- The number of tasks that are running with a lease beyond the given time. -/
def liveTasks (tasks : List ScanTask) (time : Timestamp) : ℕ :=
  tasks.countP fun t => t.status = .running && t.isLeased time

/-- A renewal commits while the leases that it extends have not run out. -/
def QueueState.renewsInTime (s : QueueState) : QueueAction → Bool
  | .commitRenew n =>
    match s.txs[n]? with
    | some (.renew r) => s.db.scanTasks.all fun t => t.id ∉ r.renewed || t.isLeased s.clock
    | _ => true
  | _ => true

/-! ## Counting live tasks -/

theorem ScanTask.isLeased_mono {t : ScanTask} {now later : Timestamp} (h : now ≤ later)
    (hlive : t.isLeased later = true) : t.isLeased now = true := by
  unfold ScanTask.isLeased at *
  cases hlease : t.leaseExpiresAt with
  | none => simp [hlease] at hlive
  | some lease =>
    simp only [hlease, decide_eq_true_eq] at hlive ⊢
    exact lt_of_le_of_lt h hlive

theorem liveTasks_antitone (tasks : List ScanTask) {now later : Timestamp} (h : now ≤ later) :
    liveTasks tasks later ≤ liveTasks tasks now := by
  apply List.countP_mono_left
  intro t _ ht
  simp only [Bool.and_eq_true] at ht ⊢
  exact ⟨ht.1, ScanTask.isLeased_mono h ht.2⟩

/-- The new rows are old ones, some of them changed, none of them live unless it was so. -/
def NoneRevived (clock : Timestamp) (before after : List ScanTask) : Prop :=
  ∃ f : ScanTask → ScanTask, after.Sublist (before.map f) ∧ ∀ t ∈ before, (f t).id = t.id ∧
    ∀ time, time ≤ clock → (f t).status = .running → (f t).isLeased time = true →
      t.status = .running ∧ t.isLeased time = true

theorem NoneRevived.refl (clock : Timestamp) (tasks : List ScanTask) :
    NoneRevived clock tasks tasks := by
  refine ⟨id, by simp, fun t _ => ⟨rfl, ?_⟩⟩
  intro time _ hrunning hlive
  exact ⟨hrunning, hlive⟩

/-- The case of rows that are changed in place. -/
theorem NoneRevived.of_map {clock : Timestamp} {tasks : List ScanTask} {f : ScanTask → ScanTask}
    (hid : ∀ t, (f t).id = t.id)
    (h : ∀ t ∈ tasks, ∀ time, time ≤ clock → (f t).status = .running →
      (f t).isLeased time = true → t.status = .running ∧ t.isLeased time = true) :
    NoneRevived clock tasks (tasks.map f) :=
  ⟨f, List.Sublist.refl _, fun t ht => ⟨hid t, h t ht⟩⟩

theorem NoneRevived.filter {clock : Timestamp} {before after : List ScanTask}
    (h : NoneRevived clock before after) (keep : ScanTask → Bool) :
    NoneRevived clock before (after.filter keep) := by
  obtain ⟨f, hsub, hf⟩ := h
  exact ⟨f, List.filter_sublist.trans hsub, hf⟩

theorem NoneRevived.nodup {clock : Timestamp} {before after : List ScanTask}
    (h : NoneRevived clock before after) (hids : (before.map (·.id)).Nodup) :
    (after.map (·.id)).Nodup := by
  obtain ⟨f, hsub, hf⟩ := h
  have hmap : (before.map f).map (·.id) = before.map (·.id) := by
    rw [List.map_map]
    exact List.map_congr_left fun t ht => (hf t ht).1
  have hkeys := hsub.map fun t : ScanTask => t.id
  rw [hmap] at hkeys
  exact hkeys.nodup hids

theorem sweptTasks_sublist {expired : List ℕ} {tasks tasks' : List ScanTask}
    (h : tasks.Sublist tasks') : (sweptTasks expired tasks).Sublist (sweptTasks expired tasks') :=
  h.map _

@[simp] theorem sweptTasks_nil (tasks : List ScanTask) : sweptTasks [] tasks = tasks := by
  simp [sweptTasks]

theorem NoneRevived.liveTasks_le {clock : Timestamp} {before after : List ScanTask}
    (h : NoneRevived clock before after) (expired : List ℕ) {time : Timestamp}
    (htime : time ≤ clock) :
    liveTasks (sweptTasks expired after) time ≤ liveTasks (sweptTasks expired before) time := by
  obtain ⟨f, hsub, hf⟩ := h
  apply le_trans (List.Sublist.countP_le (sweptTasks_sublist hsub))
  simp only [liveTasks, sweptTasks, List.map_map, List.countP_map]
  apply List.countP_mono_left
  intro t ht
  simp only [Function.comp_apply, (hf t ht).1]
  split_ifs with hid
  · simp [ScanTask.isLeased, ScanTask.releaseLease]
  · simpa using (hf t ht).2 time htime

/-- The sweep only takes leases away. -/
theorem liveTasks_swept_le (expired : List ℕ) (tasks : List ScanTask) (time : Timestamp) :
    liveTasks (sweptTasks expired tasks) time ≤ liveTasks tasks time := by
  unfold liveTasks sweptTasks
  rw [List.countP_map]
  apply List.countP_mono_left
  intro t _ ht
  simp only [Function.comp_apply] at ht
  split_ifs at ht
  · simp [ScanTask.isLeased, ScanTask.releaseLease] at ht
  · exact ht

/-- Rows named by a list of keys are at most as many as the keys. -/
theorem countP_mem_le {tasks : List ScanTask} (hids : (tasks.map (·.id)).Nodup) (ids : List ℕ) :
    tasks.countP (fun t => t.id ∈ ids) ≤ ids.length := by
  have hcount : tasks.countP (fun t => decide (t.id ∈ ids)) =
      ((tasks.map (·.id)).filter (· ∈ ids)).length := by
    rw [← List.countP_eq_length_filter, List.countP_map]
    rfl
  rw [hcount]
  apply List.Subperm.length_le
  apply List.subperm_of_subset (hids.filter _)
  intro id hid
  simpa using (List.mem_filter.mp hid).2

/-! ## The invariant -/

/-- What a claim may still add to the tasks that are live at its own time. -/
def ClaimTx.RoomLeft (globalLimit : ℕ) (tasks : List ScanTask) (c : ClaimTx) : Prop :=
  match c.stage with
  | .counted expired limit =>
    limit = 0 ∨ liveTasks (sweptTasks expired tasks) c.now + limit ≤ globalLimit
  | .claiming expired chosen =>
    chosen.length = 0 ∨
      liveTasks (sweptTasks expired tasks) c.now + chosen.length ≤ globalLimit
  | _ => True

/-- Claims are serialised, and the limit holds with the room that the current one reserved. -/
structure LimitInv (globalLimit : ℕ) (s : QueueState) : Prop where
  ids : (s.db.scanTasks.map (·.id)).Nodup
  live : liveTasks s.db.scanTasks s.clock ≤ globalLimit
  begun : ∀ c, .claim c ∈ s.txs → c.now ≤ s.clock
  room : ∀ c, .claim c ∈ s.txs → c.RoomLeft globalLimit s.db.scanTasks
  single : ∀ (n m : ℕ) (c d : ClaimTx), s.txs[n]? = some (.claim c) →
    s.txs[m]? = some (.claim d) → c.holdsLock = true → d.holdsLock = true → n = m

theorem ClaimTx.RoomLeft.mono {globalLimit : ℕ} {tasks tasks' : List ScanTask} {c : ClaimTx}
    {clock : Timestamp} (h : c.RoomLeft globalLimit tasks) (hnow : c.now ≤ clock)
    (hrev : NoneRevived clock tasks tasks') : c.RoomLeft globalLimit tasks' := by
  unfold ClaimTx.RoomLeft at *
  split at h
  · rename_i expired limit _
    have := hrev.liveTasks_le expired hnow
    omega
  · rename_i expired chosen _
    have := hrev.liveTasks_le expired hnow
    omega
  · trivial

theorem ClaimTx.roomLeft_of_waiting {globalLimit : ℕ} {tasks : List ScanTask} {c : ClaimTx}
    (h : c.holdsLock = false) : c.RoomLeft globalLimit tasks := by
  have hstage : c.stage = .waiting := by simpa [ClaimTx.holdsLock] using h
  simp [ClaimTx.RoomLeft, hstage]

theorem lockFree_iff {s : QueueState} :
    s.lockFree = true ↔ ∀ c, .claim c ∈ s.txs → c.holdsLock = false := by
  unfold QueueState.lockFree
  rw [List.all_eq_true]
  constructor
  · intro h c hc
    simpa using h _ hc
  · intro h tx htx
    cases tx with
    | claim c => simpa using h c htx
    | _ => rfl

variable {globalLimit : ℕ} {s : QueueState}

/-- A transaction moves on while the other rows become no more live. -/
theorem LimitInv.finish (h : LimitInv globalLimit s) {n : ℕ} {db : Database} {tx : QueueTx}
    (hrev : NoneRevived s.clock s.db.scanTasks db.scanTasks)
    (htx : ∀ c, tx = .claim c → c.now ≤ s.clock ∧ c.RoomLeft globalLimit db.scanTasks ∧
      (c.holdsLock = true → s.lockFree = true ∨
        ∃ d, s.txs[n]? = some (.claim d) ∧ d.holdsLock = true)) :
    LimitInv globalLimit (s.finish n db tx) := by
  constructor
  case ids => exact hrev.nodup h.ids
  case live =>
    have hle := hrev.liveTasks_le [] (le_refl s.clock)
    rw [sweptTasks_nil, sweptTasks_nil] at hle
    exact le_trans hle h.live
  case begun =>
    intro c hc
    rcases Machine.mem_set_cases hc with hnew | ⟨m, -, hm⟩
    · exact (htx c hnew.symm).1
    · exact h.begun c (List.mem_of_getElem? hm)
  case room =>
    intro c hc
    rcases Machine.mem_set_cases hc with hnew | ⟨m, -, hm⟩
    · exact (htx c hnew.symm).2.1
    · have hmem := List.mem_of_getElem? hm
      exact (h.room c hmem).mono (h.begun c hmem) hrev
  case single =>
    -- the transaction that moves either had the lock already or has just found it free
    have hother : ∀ (m : ℕ) (c d : ClaimTx), tx = .claim c → m ≠ n → s.txs[m]? = some (.claim d) →
        c.holdsLock = true → d.holdsLock = true → False := by
      intro m c d hc hmn hm hlock hd
      rcases (htx c hc).2.2 hlock with hfree | ⟨e, he, hlocked⟩
      · rw [lockFree_iff.mp hfree d (List.mem_of_getElem? hm)] at hd
        cases hd
      · exact hmn (h.single m n d e hm he hd hlocked)
    intro m k c d hm hk hc hd
    rcases Machine.getElem?_set_cases hm with ⟨rfl, hcn⟩ | ⟨hmn, hm'⟩ <;>
      rcases Machine.getElem?_set_cases hk with ⟨rfl, hdn⟩ | ⟨hkn, hk'⟩
    · rfl
    · exact (hother k c d hcn.symm hkn hk' hc hd).elim
    · exact (hother m d c hdn.symm hmn hm' hd hc).elim
    · exact h.single m k c d hm' hk' hc hd

theorem LimitInv.begin (h : LimitInv globalLimit s) {tx : QueueTx}
    (htx : ∀ c, tx = .claim c → c.now ≤ s.clock ∧ c.holdsLock = false) :
    LimitInv globalLimit (s.begin tx) := by
  constructor
  case ids => exact h.ids
  case live => exact h.live
  case begun =>
    intro c hc
    rcases List.mem_append.mp hc with hold | hnew
    · exact h.begun c hold
    · exact (htx c (List.mem_singleton.mp hnew).symm).1
  case room =>
    intro c hc
    rcases List.mem_append.mp hc with hold | hnew
    · exact h.room c hold
    · exact ClaimTx.roomLeft_of_waiting (htx c (List.mem_singleton.mp hnew).symm).2
  case single =>
    intro m k c d hm hk hc hd
    rcases Machine.getElem?_append_cases hm with hm' | ⟨-, hcn⟩
    · rcases Machine.getElem?_append_cases hk with hk' | ⟨-, hdn⟩
      · exact h.single m k c d hm' hk' hc hd
      · rw [(htx d hdn.symm).2] at hd
        cases hd
    · rw [(htx c hcn.symm).2] at hc
      cases hc

/-! ## Claims -/

theorem claimLimit_room (localCapacity : ℕ) (now : Timestamp) (tasks : List ScanTask) :
    claimLimit globalLimit localCapacity now tasks = 0 ∨
      liveTasks tasks now + claimLimit globalLimit localCapacity now tasks ≤ globalLimit := by
  unfold claimLimit liveTasks
  omega

theorem length_pendingTasks_le (n : ℕ) (expired : List ℕ) (limit : ℕ) :
    (s.pendingTasks n expired limit).length ≤ limit := by
  unfold QueueState.pendingTasks
  rw [List.length_map]
  exact List.length_take_le _ _

/-- One statement of a claim: only the first needs the lock to be free. -/
theorem ClaimTx.step_spec {n : ℕ} {c d : ClaimTx} (h : c.step globalLimit s n = some d)
    (hroom : c.RoomLeft globalLimit s.db.scanTasks) :
    d.now = c.now ∧ d.RoomLeft globalLimit s.db.scanTasks ∧
      (s.lockFree = true ∨ c.holdsLock = true) := by
  unfold ClaimTx.step at h
  split at h
  · split_ifs at h with hfree
    cases h
    exact ⟨rfl, trivial, Or.inl hfree⟩
  · rename_i hstage
    cases h
    exact ⟨rfl, trivial, Or.inr (by simp [ClaimTx.holdsLock, hstage])⟩
  · rename_i expired hstage
    cases h
    exact ⟨rfl, claimLimit_room _ _ _, Or.inr (by simp [ClaimTx.holdsLock, hstage])⟩
  · rename_i expired limit hstage
    cases h
    refine ⟨rfl, ?_, Or.inr (by simp [ClaimTx.holdsLock, hstage])⟩
    have hlength := length_pendingTasks_le (s := s) n expired limit
    simp only [ClaimTx.RoomLeft, hstage] at hroom ⊢
    omega
  · cases h

theorem LimitInv.claim (h : LimitInv globalLimit s) {n : ℕ} {c d : ClaimTx}
    (hn : s.txs[n]? = some (.claim c)) (hstep : c.step globalLimit s n = some d) :
    LimitInv globalLimit (s.setTx n (.claim d)) := by
  have hmem := List.mem_of_getElem? hn
  obtain ⟨hnow, hroom, hlock⟩ := ClaimTx.step_spec hstep (h.room c hmem)
  apply h.finish (NoneRevived.refl s.clock s.db.scanTasks)
  rintro _ ⟨⟩
  refine ⟨hnow ▸ h.begun c hmem, hroom, fun _ => ?_⟩
  rcases hlock with hfree | hlocked
  · exact Or.inl hfree
  · exact Or.inr ⟨c, hn, hlocked⟩

/-- A claim makes live only the rows that it has chosen. -/
theorem liveTasks_commit_le {c : ClaimTx} {expired chosen : List ℕ} {db : Database}
    (hids : (db.scanTasks.map (·.id)).Nodup) (time : Timestamp) :
    liveTasks (c.commit expired chosen db).scanTasks time ≤
      liveTasks (sweptTasks expired db.scanTasks) time + chosen.length := by
  have hswept : ((sweptTasks expired db.scanTasks).map (·.id)).Nodup := by
    have hkeep : (sweptTasks expired db.scanTasks).map (·.id) = db.scanTasks.map (·.id) := by
      rw [sweptTasks, List.map_map]
      apply List.map_congr_left
      intro t _
      simp only [Function.comp_apply]
      split_ifs <;> rfl
    rwa [hkeep]
  have hcount := countP_mem_le hswept chosen
  apply le_trans (Machine.countP_map_le_add (q := fun t => decide (t.id ∈ chosen)) ?_)
  · exact Nat.add_le_add_left hcount _
  · intro t _ ht
    by_cases hid : t.id ∈ chosen
    · exact Or.inr (by simpa using hid)
    · left
      simpa [hid] using ht

theorem nodup_commit {c : ClaimTx} {expired chosen : List ℕ} {db : Database}
    (hids : (db.scanTasks.map (·.id)).Nodup) :
    ((c.commit expired chosen db).scanTasks.map (·.id)).Nodup := by
  have hkeep : (c.commit expired chosen db).scanTasks.map (·.id) = db.scanTasks.map (·.id) := by
    simp only [ClaimTx.commit, sweptTasks, List.map_map]
    apply List.map_congr_left
    intro t _
    simp only [Function.comp_apply, ScanTask.claimedBy, ScanTask.releaseLease]
    split_ifs <;> rfl
  rwa [hkeep]

theorem LimitInv.commitClaim (h : LimitInv globalLimit s) {n : ℕ} {c : ClaimTx}
    {expired chosen : List ℕ} (hn : s.txs[n]? = some (.claim c))
    (hstage : c.stage = .claiming expired chosen) :
    LimitInv globalLimit (s.finish n (c.commit expired chosen s.db) .done) := by
  have hmem := List.mem_of_getElem? hn
  have hnow := h.begun c hmem
  have hlocked : c.holdsLock = true := by simp [ClaimTx.holdsLock, hstage]
  have hrest : ∀ d, .claim d ∈ s.txs.set n .done → .claim d ∈ s.txs ∧ d.holdsLock = false := by
    intro d hd
    rcases Machine.mem_set_cases hd with hnew | ⟨m, hmn, hm⟩
    · cases hnew
    · refine ⟨List.mem_of_getElem? hm, ?_⟩
      by_contra hlock
      exact hmn (h.single m n d c hm hn (by simpa using hlock) hlocked)
  constructor
  case ids => exact nodup_commit h.ids
  case live =>
    have hroom := h.room c hmem
    simp only [ClaimTx.RoomLeft, hstage] at hroom
    apply le_trans (liveTasks_commit_le h.ids s.clock)
    rcases hroom with hnone | hroom
    · have hswept := liveTasks_swept_le expired s.db.scanTasks s.clock
      have hlive := h.live
      omega
    · have hlater := liveTasks_antitone (sweptTasks expired s.db.scanTasks) hnow
      omega
  case begun => exact fun d hd => h.begun d (hrest d hd).1
  case room => exact fun d hd => ClaimTx.roomLeft_of_waiting (hrest d hd).2
  case single =>
    intro m k d e hm hk hd _
    rw [(hrest d (List.mem_of_getElem? hm)).2] at hd
    cases hd

/-! ## The other transactions -/

theorem noneRevived_commitRenew {r : RenewTx}
    (h : ∀ t ∈ s.db.scanTasks, t.id ∈ r.renewed → t.isLeased s.clock = true) :
    NoneRevived s.clock s.db.scanTasks (r.commit s.db).scanTasks := by
  apply NoneRevived.of_map
  · intro t
    split_ifs <;> rfl
  · intro t ht time htime
    split_ifs with hid
    · intro hrunning _
      exact ⟨hrunning, ScanTask.isLeased_mono htime (h t ht hid)⟩
    · exact fun hrunning hlive => ⟨hrunning, hlive⟩

/-- A row that stops running is not live any more. -/
theorem noneRevived_updateTask {tasks : List ScanTask} {clock : Timestamp} {taskId : ℕ}
    {f : ScanTask → ScanTask} (hid : ∀ t, (f t).id = t.id)
    (hstatus : ∀ t, (f t).status ≠ .running) :
    NoneRevived clock tasks (tasks.map fun t => if t.id = taskId then f t else t) := by
  apply NoneRevived.of_map
  · intro t
    split_ifs
    · exact hid t
    · rfl
  · intro t _ time _
    split_ifs
    · intro hrunning
      exact absurd hrunning (hstatus t)
    · exact fun hrunning hlive => ⟨hrunning, hlive⟩

theorem noneRevived_commitSettle {t : HeldTx} {wall : Timestamp} {db : Database}
    (h : t.commit wall s.db = some db) : NoneRevived s.clock s.db.scanTasks db.scanTasks := by
  obtain ⟨⟨fields, mid⟩, hwrite, rfl⟩ := Option.map_eq_some_iff.mp h
  obtain ⟨htasks, -, -, -, hfields⟩ := Settlement.write_frame hwrite
  simp only [Database.updateTask, htasks]
  apply noneRevived_updateTask
  · exact fun row => (hfields row).1
  · intro row hrunning
    have := t.settlement.status_not_active
    simp_all [ScanTaskStatus.isActive]

theorem noneRevived_commitCancel (c : CancelTx) (task : Option (ℕ × Timestamp)) :
    NoneRevived s.clock s.db.scanTasks (c.commit task s.db).scanTasks := by
  have hcancelled : ∀ taskId wall, NoneRevived s.clock s.db.scanTasks
      (s.db.updateTask taskId fun t =>
        { t with status := .cancelled, finishedAt := some wall }).scanTasks := by
    intro taskId wall
    apply noneRevived_updateTask
    · exact fun _ => rfl
    · exact fun _ h => by cases h
  unfold CancelTx.commit
  cases task with
  | none =>
    split_ifs
    · exact (NoneRevived.refl _ _).filter _
    · exact NoneRevived.refl _ _
  | some written =>
    split_ifs
    · exact (hcancelled _ _).filter _
    · exact hcancelled _ _

/-- A transaction other than a claim moves on or ends. -/
theorem LimitInv.leave (h : LimitInv globalLimit s) {n : ℕ} {db : Database} {tx : QueueTx}
    (hrev : NoneRevived s.clock s.db.scanTasks db.scanTasks) (htx : ∀ c, tx ≠ .claim c) :
    LimitInv globalLimit (s.finish n db tx) :=
  h.finish hrev fun c hc => absurd hc (htx c)

theorem LimitInv.setTx (h : LimitInv globalLimit s) {n : ℕ} {tx : QueueTx}
    (htx : ∀ c, tx ≠ .claim c) : LimitInv globalLimit (s.setTx n tx) :=
  h.leave (NoneRevived.refl s.clock s.db.scanTasks) htx

theorem LimitInv.tick (h : LimitInv globalLimit s) (duration : ℕ) :
    LimitInv globalLimit { s with clock := s.clock + duration } := by
  constructor
  case ids => exact h.ids
  case live => exact le_trans (liveTasks_antitone _ (Nat.le_add_right _ _)) h.live
  case begun => exact fun c hc => le_trans (h.begun c hc) (Nat.le_add_right _ _)
  case room => exact h.room
  case single => exact h.single

theorem LimitInv.step (h : LimitInv globalLimit s) {a : QueueAction} {s' : QueueState}
    (hcond : s.renewsInTime a = true) (hstep : s.step globalLimit a = some s') :
    LimitInv globalLimit s' := by
  cases a with
  | tick duration =>
    cases hstep
    exact h.tick duration
  | beginClaim workerId localCapacity leaseSeconds =>
    simp only [QueueState.step] at hstep
    split_ifs at hstep
    cases hstep
    apply h.begin
    rintro _ ⟨⟩
    exact ⟨le_rfl, rfl⟩
  | claim n =>
    simp only [QueueState.step] at hstep
    split at hstep
    · rename_i c hn
      obtain ⟨d, hd, rfl⟩ := Option.map_eq_some_iff.mp hstep
      exact h.claim hn hd
    · cases hstep
  | commitClaim n =>
    simp only [QueueState.step] at hstep
    split at hstep
    · rename_i c hn
      split at hstep
      · rename_i hstage
        cases hstep
        exact h.commitClaim hn hstage
      · cases hstep
    · cases hstep
  | beginRenew workerId taskIds leaseSeconds =>
    cases hstep
    exact h.begin fun _ hc => by cases hc
  | renew n =>
    simp only [QueueState.step] at hstep
    split at hstep
    · obtain ⟨r, -, rfl⟩ := Option.map_eq_some_iff.mp hstep
      exact h.setTx fun _ hc => by cases hc
    · cases hstep
  | commitRenew n =>
    simp only [QueueState.step] at hstep
    split at hstep
    · rename_i r hn
      split_ifs at hstep
      cases hstep
      apply h.leave
      · apply noneRevived_commitRenew
        intro t ht hid
        simp only [QueueState.renewsInTime, hn, List.all_eq_true] at hcond
        simpa [hid] using hcond t ht
      · exact fun _ hc => by cases hc
    · cases hstep
  | beginSettle workerId taskId settlement =>
    cases hstep
    exact h.begin fun _ hc => by cases hc
  | lockTask n =>
    simp only [QueueState.step] at hstep
    split at hstep
    · obtain ⟨tx, hlock, rfl⟩ := Option.map_eq_some_iff.mp hstep
      rcases HeldTx.lock_cases hlock with rfl | ⟨task, -, -, rfl⟩
      · exact h.setTx fun _ hc => by cases hc
      · exact h.setTx fun _ hc => by cases hc
    · cases hstep
  | commitSettle n wall =>
    simp only [QueueState.step] at hstep
    split at hstep
    · split_ifs at hstep
      obtain ⟨db, hcommit, rfl⟩ := Option.map_eq_some_iff.mp hstep
      exact h.leave (noneRevived_commitSettle hcommit) fun _ hc => by cases hc
    · cases hstep
  | beginCancel deviceId deletes =>
    cases hstep
    exact h.begin fun _ hc => by cases hc
  | readActive n =>
    simp only [QueueState.step] at hstep
    split at hstep
    · obtain ⟨tx, hread, rfl⟩ := Option.map_eq_some_iff.mp hstep
      rcases CancelTx.read_cases hread with
        rfl | ⟨-, rfl | rfl⟩ | ⟨task, -, ⟨-, rfl⟩ | ⟨-, rfl⟩⟩
      all_goals exact h.setTx fun _ hc => by cases hc
    · cases hstep
  | writeCancelled n wall =>
    simp only [QueueState.step] at hstep
    split at hstep
    · obtain ⟨tx, hwrite, rfl⟩ := Option.map_eq_some_iff.mp hstep
      obtain ⟨taskId, -, -, ⟨-, rfl⟩ | rfl⟩ := CancelTx.write_cases hwrite
      · exact h.setTx fun _ hc => by cases hc
      · exact h.setTx fun _ hc => by cases hc
    · cases hstep
  | commitCancel n =>
    simp only [QueueState.step] at hstep
    split at hstep
    · split at hstep
      · split_ifs at hstep
        cases hstep
        exact h.leave (noneRevived_commitCancel _ _) fun _ hc => by cases hc
      · cases hstep
    · cases hstep
  | rollback n =>
    cases hstep
    exact h.setTx fun _ hc => by cases hc

/-! ## Every run -/

/-- Whatever claims, renewals, settlements and cancellations are interleaved, the running
tasks with a live lease stay within the limit, if no renewal outlives the lease it extends. -/
theorem running_scans_within_limit {db : Database} {clock : Timestamp}
    {actions : List QueueAction} {s : QueueState} (hids : (db.scanTasks.map (·.id)).Nodup)
    (hlive : liveTasks db.scanTasks clock ≤ globalLimit)
    (hmeets : Machine.Meets (QueueState.step globalLimit) (fun s a => s.renewsInTime a = true)
      { db, clock } actions)
    (hrun : Machine.run (QueueState.step globalLimit) { db, clock } actions = some s)
    (time : Timestamp) (htime : s.clock ≤ time) :
    liveTasks s.db.scanTasks time ≤ globalLimit := by
  have hstart : LimitInv globalLimit { db, clock } := by
    constructor
    case ids => exact hids
    case live => exact hlive
    case begun => exact fun _ hc => absurd hc List.not_mem_nil
    case room => exact fun _ hc => absurd hc List.not_mem_nil
    case single =>
      intro n m c d hn
      simp at hn
  have hend := Machine.run_invariant_of_meets (LimitInv globalLimit)
    (fun _ _ _ hinv hcond hstep => hinv.step hcond hstep) actions _ s hstart hmeets hrun
  exact le_trans (liveTasks_antitone s.db.scanTasks htime) hend.live

/-- Two pending tasks of two devices. -/
def twoPendingTasks : Database where
  devices := [{ id := 1, name := "a", host := "10.0.0.1" },
    { id := 2, name := "b", host := "10.0.0.2" }]
  scanTasks := [{ id := 1, deviceId := 1, triggerType := .manual, priority := 100 },
    { id := 2, deviceId := 2, triggerType := .manual, priority := 100 }]
  sequences := { scanTasks := 3, devices := 3 }

/-- A claim from its first to its last statement. -/
def claimStatements (n : ℕ) : List QueueAction :=
  [.claim n, .claim n, .claim n, .claim n, .commitClaim n]

/-- The first worker renews its only lease while it is still live. -/
def promptRenewal : List QueueAction :=
  [.beginClaim "w1" 1 60] ++ claimStatements 0 ++
    [.tick 50000000, .beginRenew "w1" [1] 60, .renew 1, .renew 1, .beginClaim "w2" 1 60] ++
    claimStatements 2 ++ [.commitRenew 1]

/-- The first worker locks its row while the lease is live and commits after its end; the
second worker skips the row and claims the other task. -/
def lateRenewal : List QueueAction :=
  [.beginClaim "w1" 1 60] ++ claimStatements 0 ++
    [.tick 59000000, .beginRenew "w1" [1] 60, .renew 1, .renew 1, .tick 1000000,
      .beginClaim "w2" 1 60] ++ claimStatements 2 ++ [.commitRenew 1]

theorem prompt_renewal_within_limit :
    Machine.Meets (QueueState.step 1) (fun s a => s.renewsInTime a = true)
      { db := twoPendingTasks } promptRenewal ∧
    ∃ s, Machine.run (QueueState.step 1) { db := twoPendingTasks } promptRenewal = some s ∧
      liveTasks s.db.scanTasks s.clock ≤ 1 := by
  have hmeets : Machine.Meets (QueueState.step 1) (fun s a => s.renewsInTime a = true)
      { db := twoPendingTasks } promptRenewal := by decide +kernel
  have hsome : (Machine.run (QueueState.step 1) { db := twoPendingTasks } promptRenewal).isSome := by
    decide +kernel
  obtain ⟨s, hs⟩ := Option.isSome_iff_exists.mp hsome
  exact ⟨hmeets, s, hs, running_scans_within_limit (by decide) (by decide) hmeets hs s.clock le_rfl⟩

theorem late_renewal_exceeds_limit :
    ∃ s, Machine.run (QueueState.step 1) { db := twoPendingTasks } lateRenewal = some s ∧
      liveTasks twoPendingTasks.scanTasks 0 ≤ 1 ∧ liveTasks s.db.scanTasks s.clock = 2 := by
  have h : ((Machine.run (QueueState.step 1) { db := twoPendingTasks } lateRenewal).map fun s =>
      liveTasks s.db.scanTasks s.clock) = some 2 := by decide +kernel
  obtain ⟨s, hs, hlive⟩ := Option.map_eq_some_iff.mp h
  exact ⟨s, hs, by decide, hlive⟩

end ConnectionTopology
