import ConnectionTopology.Database.Frames
import ConnectionTopology.Database.Seats
import ConnectionTopology.ScanQueue.ClaimEffect
import ConnectionTopology.ScanQueue.Fencing

/-!
# The queue as leased jobs

Whatever the tables look like, for a device the queue has at most one job, which waits or is
leased to one worker. `Database.jobs` reads this off the rows, `AppAction.moves` off a call and its
reply, and every run of the application is a run of the leased jobs.
-/
namespace ConnectionTopology

open Leases

variable {db db' : Database} {b : Backend} {seats new : List Seat}

/-! ## Enqueuing -/

/-- Tasks are inserted, and the others stay in their places. -/
def Enqueues (db db' : Database) : Prop :=
  ∃ new, db'.seats = db.seats ++ new ∧ Joins db.seats new

theorem Enqueues.of_seats (h : db'.seats = db.seats) : Enqueues db db' :=
  ⟨[], by rw [h, List.append_nil], trivial⟩

theorem Enqueues.trans {db'' : Database} (h : Enqueues db db') (h' : Enqueues db' db'') :
    Enqueues db db'' := by
  obtain ⟨new, hseats, hjoins⟩ := h
  obtain ⟨new', hseats', hjoins'⟩ := h'
  refine ⟨new ++ new', ?_, ?_⟩
  · rw [hseats', hseats, List.append_assoc]
  · rw [hseats] at hjoins'
    exact hjoins.append hjoins'

theorem seats_of_tasks (h : db'.scanTasks = db.scanTasks) : db'.seats = db.seats := by
  unfold Database.seats
  rw [h]

theorem seats_refresh (wall : Timestamp) (ids : List ℕ) (db : Database) :
    (refreshScanBatches wall ids db).seats = db.seats :=
  seats_of_tasks (refreshScanBatches_scanTasks wall ids db)

theorem jobs_eq (db : Database) (deviceId : ℕ) :
    db.jobs deviceId = (activeTask db deviceId).map fun t => t.seat.job := by
  unfold Database.jobs jobOf Database.seats activeTask
  rw [List.find?_map, Option.map_map]
  rfl

/-- A reused task keeps its place, and a new one is for a device without one. -/
theorem reuseOrInsertTask_enqueues {queueSize deviceId : ℕ} {trigger : ScanTrigger} {priority : ℤ}
    {wall : Timestamp} {task : ScanTask} (hlinked : db.Linked)
    (hok : reuseOrInsertTask queueSize deviceId trigger priority wall db = .ok (task, db')) :
    Enqueues db db' := by
  unfold reuseOrInsertTask at hok
  split at hok
  · rename_i hnone
    split_ifs at hok
    cases hok
    refine ⟨[(insertTask deviceId trigger priority wall db).1.seat], ?_, ⟨?_, ?_, ?_⟩, trivial⟩
    · unfold Database.seats
      exact List.map_append
    · intro hmem
      unfold Database.seats at hmem
      rw [List.map_map] at hmem
      obtain ⟨t, ht, hid⟩ := List.mem_map.mp hmem
      exact (hlinked.drawn .scanTasks t.id (List.mem_map_of_mem ht)).ne hid
    · show db.jobs deviceId = none
      rw [jobs_eq, hnone]
      rfl
    · exact ⟨rfl, by simp [Seat.LeaseOk, ScanTask.seat, insertTask]⟩
  · have hraised := Except.ok.inj hok
    unfold raisePriority at hraised
    split_ifs at hraised <;> cases hraised
    · apply Enqueues.of_seats
      unfold Database.seats Database.updateTask
      dsimp only
      rw [List.map_map]
      apply List.map_congr_left
      intro t _
      dsimp only [Function.comp_apply]
      split_ifs <;> rfl
    · exact .of_seats rfl

theorem enqueueInSession_enqueues {queueSize deviceId : ℕ} {trigger : ScanTrigger} {priority : ℤ}
    {batchId : Option ℕ} {wall : Timestamp} {task : ScanTask} (hlinked : db.Linked)
    (hok : enqueueInSession queueSize deviceId trigger priority batchId wall db = .ok (task, db')) :
    Enqueues db db' := by
  unfold enqueueInSession at hok
  split at hok
  · cases hok
  · split_ifs at hok
    split at hok
    · cases hok
    · rename_i reused mid hreuse
      have hmid := reuseOrInsertTask_enqueues hlinked hreuse
      split at hok
      · cases hok
        exact hmid
      · rename_i batch
        split at hok
        · cases hok
        · rename_i hattach
          cases hok
          refine hmid.trans (.of_seats (seats_of_tasks ?_))
          unfold attachBatchItem at hattach
          split_ifs at hattach <;> cases hattach <;> rfl

theorem enqueueAll_enqueues {queueSize batchId : ℕ} {trigger : ScanTrigger} {priority : ℤ}
    {wall : Timestamp} {deviceIds : List ℕ} (hlinked : db.Linked)
    (hok : enqueueAll queueSize trigger priority batchId wall deviceIds db = .ok db') :
    Enqueues db db' := by
  induction deviceIds generalizing db with
  | nil =>
    cases hok
    exact .of_seats rfl
  | cons deviceId rest ih =>
    simp only [enqueueAll] at hok
    split at hok
    · cases hok
    · rename_i mid hsession
      have hlater := ih (hlinked.grows (enqueueInSession_extends hsession).grows) hok
      exact (enqueueInSession_enqueues hlinked hsession).trans hlater

theorem createBatchInSession_enqueues {queueSize : ℕ} {batchType : ScanBatchType}
    {deviceIds : List ℕ} {clusterId sourceImportBatchId : Option ℕ} {wall : Timestamp}
    {batchId : ℕ} (hlinked : db.Linked) (hok : createBatchInSession queueSize batchType deviceIds
      clusterId sourceImportBatchId wall db = .ok (batchId, db')) : Enqueues db db' := by
  unfold createBatchInSession at hok
  dsimp only at hok
  split_ifs at hok with hfull hreferences
  split at hok
  · cases hok
  · rename_i hall
    cases hok
    rw [Bool.not_eq_true, Bool.not_eq_false'] at hreferences
    have hinserted := hlinked.grows (Database.KeepsLinks.insertBatch hreferences batchType wall)
    exact (enqueueAll_enqueues hinserted hall).trans (.of_seats (seats_refresh wall _ _))

theorem createImportScanBatch_enqueues {queueSize importBatchId : ℕ} {wall : Timestamp}
    {batchId : Option ℕ} (hlinked : db.Linked) (hok : createImportScanBatch queueSize
      importBatchId wall db = .ok (batchId, db')) : Enqueues db db' := by
  unfold createImportScanBatch at hok
  split at hok
  · cases hok
    exact .of_seats rfl
  · split at hok
    · cases hok
      exact .of_seats rfl
    · split at hok
      · cases hok
      · rename_i hcreate
        cases hok
        exact (createBatchInSession_enqueues hlinked hcreate).trans (.of_seats rfl)

theorem enqueueDevice_enqueues {queueSize deviceId taskId : ℕ} {trigger : ScanTrigger}
    {priority : ℤ} {batchId : Option ℕ} {wall : Timestamp} (hlinked : db.Linked)
    (hok : enqueueDevice queueSize deviceId trigger priority batchId wall db = .ok (taskId, db')) :
    Enqueues db db' := by
  unfold enqueueDevice at hok
  split at hok
  · cases hok
  · rename_i hsession
    have hjoined := enqueueInSession_enqueues hlinked hsession
    split at hok <;> cases hok
    · exact hjoined
    · exact hjoined.trans (.of_seats (seats_refresh wall _ _))

/-! ## The moves of a call -/

def Seat.isExpired (now : Timestamp) (s : Seat) : Bool :=
  s.status = .running && s.leaseExpiresAt.all (· ≤ now)

/-- What a call has done to one task, by its reply. -/
def Call.acts (db : Database) (call : Call) (s : Seat) : List JobAct :=
  match call.transaction, (perform call db).1 with
  | .claimScanTasks workerId localCapacity _ leaseSeconds, .claimed taskIds =>
    (if 0 < localCapacity && s.isExpired call.now then [.expire call.now] else []) ++
      if s.id ∈ taskIds then [.claim workerId (call.now + leaseSeconds * microsPerSecond)] else []
  | .renewScanLeases workerId taskIds leaseSeconds, .lost lost =>
    if s.id ∈ taskIds ∧ s.id ∉ lost then
      [.renew workerId call.now (call.now + leaseSeconds * microsPerSecond)]
    else []
  | .persistOutcome workerId taskId _, .settled _
  | .recordTransactionConflict workerId taskId _, .settled _
  | .failUnexpectedTask workerId taskId, .failed =>
    if s.id = taskId then [.settle workerId call.now] else []
  | .cancelDevice deviceId, .cancelled true => if s.serves deviceId then [.cancel] else []
  | _, _ => []

/-- The moves of a call: of the tasks that were there, and then the new tasks. -/
def Call.moves (db : Database) (call : Call) : List (ℕ × JobAct) :=
  movesOf db.seats (call.acts db) ++
    submissions ((perform call db).2.seats.drop db.seats.length)

/-- A call is a run of the jobs. -/
structure Call.Answered (db : Database) (call : Call) : Prop where
  idle : ∀ s ∈ db.seats, s.status.isActive = false → call.acts db s = []
  seated : Seated (perform call db).2.seats
  run : Machine.run (Machine.each step) db.jobs (call.moves db) = some (perform call db).2.jobs

variable {call : Call}

theorem movesOf_nil (seats : List Seat) : movesOf seats (fun _ => []) = [] := by
  unfold movesOf
  induction seats with
  | nil => rfl
  | cons s rest ih => exact ih

/-- A call that inserts tasks and does nothing to the others. -/
theorem Call.Answered.enqueued (h : Seated db.seats) (hacts : call.acts db = fun _ => [])
    (hjoins : Enqueues db (perform call db).2) : call.Answered db := by
  obtain ⟨new, hseats, hnew⟩ := hjoins
  obtain ⟨hseated, hrun⟩ := h.run_append hnew
  have hmoves : call.moves db = submissions new := by
    unfold Call.moves
    rw [hacts, movesOf_nil, hseats, List.drop_left, List.nil_append]
  refine ⟨fun s _ _ => congrFun hacts s, hseats ▸ hseated, ?_⟩
  unfold Database.jobs
  rw [hmoves, hseats]
  exact hrun

/-- A call that rewrites tasks one by one and inserts none. -/
theorem Call.Answered.rewritten (h : Seated db.seats) {g : Seat → Seat}
    (hseats : (perform call db).2.seats = db.seats.map g) (hg : KeepsSeats db.seats g)
    (hidle : ∀ s ∈ db.seats, s.status.isActive = false → call.acts db s = [])
    (hacts : ∀ s ∈ db.seats, s.status.isActive = true →
      Machine.run step (some s.job) (call.acts db s) =
        some (if (g s).status.isActive then some (g s).job else none)) : call.Answered db := by
  have hmoves : call.moves db = movesOf db.seats (call.acts db) := by
    unfold Call.moves
    rw [hseats, List.drop_of_length_le (List.length_map g).le]
    exact List.append_nil _
  refine ⟨hidle, hseats ▸ h.map hg, ?_⟩
  unfold Database.jobs
  rw [hmoves, hseats]
  exact h.run_map hg hidle hacts

/-- A call that is refused. -/
theorem Call.Answered.refused (h : Seated db.seats) (hacts : call.acts db = fun _ => [])
    (hsame : (perform call db).2 = db) : call.Answered db := by
  apply Call.Answered.enqueued h hacts
  rw [hsame]
  exact .of_seats rfl


/-! ## Claims and leases -/

/-- The task after the sweep of a claim. -/
def Seat.swept (now : Timestamp) (s : Seat) : Seat :=
  if s.isExpired now then
    { s with status := .pending, workerId := none, leaseExpiresAt := none, heartbeatAt := none }
  else s

def Seat.running (workerId : String) (now due : Timestamp) (s : Seat) : Seat :=
  { s with
    status := .running
    workerId := some workerId
    leaseExpiresAt := some due
    heartbeatAt := some now }

theorem seat_isExpired (now : Timestamp) (t : ScanTask) :
    t.seat.isExpired now = t.isExpired now := by
  unfold Seat.isExpired ScanTask.isExpired ScanTask.seat
  cases t.leaseExpiresAt <;> simp

theorem seat_swept (now : Timestamp) (t : ScanTask) : (t.swept now).seat = t.seat.swept now := by
  unfold ScanTask.swept Seat.swept
  rw [seat_isExpired]
  split_ifs <;> rfl

/-- The lease of an active task that is not waiting. -/
theorem Seat.LeaseOk.lease {s : Seat} (h : s.LeaseOk) (hactive : s.status.isActive = true)
    (hwaits : s.status ≠ .pending) : s.status = .running ∧ ∃ worker due,
      s.workerId = some worker ∧ s.leaseExpiresAt = some due := by
  have hrunning : s.status = .running := by
    cases hstatus : s.status <;> simp_all [ScanTaskStatus.isActive]
  unfold Seat.LeaseOk at h
  rw [if_pos hrunning] at h
  obtain ⟨worker, hworker⟩ := Option.isSome_iff_exists.mp h.1
  obtain ⟨due, hdue⟩ := Option.isSome_iff_exists.mp h.2.1
  exact ⟨hrunning, worker, due, hworker, hdue⟩

theorem Seat.swept_leaseOk {s : Seat} (h : s.LeaseOk) (now : Timestamp) : (s.swept now).LeaseOk := by
  unfold Seat.swept
  split_ifs
  · exact ⟨rfl, rfl, rfl⟩
  · exact h

theorem Seat.swept_active (now : Timestamp) {s : Seat}
    (h : (s.swept now).status.isActive = true) : s.status.isActive = true := by
  unfold Seat.swept at h
  split_ifs at h with hexpired
  · have hrunning : s.status = .running := by
      simp only [Seat.isExpired, Bool.and_eq_true, decide_eq_true_eq] at hexpired
      exact hexpired.1
    rw [hrunning]
    rfl
  · exact h

/-- Only tasks that wait after the sweep are claimed. -/
theorem claimed_waits {limit : ℤ} {now : Timestamp} (hids : (db.seats.map (·.id)).Nodup) {s : Seat}
    (hs : s ∈ db.seats) (hclaimed : s.id ∈ db.headIds limit now) :
    (s.swept now).status = .pending := by
  obtain ⟨t, ht, hid⟩ := List.mem_map.mp hclaimed
  have hwaits := (List.mem_insertionSort _).mp (List.mem_of_mem_take ht)
  obtain ⟨hmem, hpending⟩ := List.mem_filter.mp hwaits
  obtain ⟨old, hold, rfl⟩ := List.mem_map.mp hmem
  have hseat : old.seat ∈ db.seats := List.mem_map_of_mem hold
  have hsame : old.seat = s := by
    apply List.inj_on_of_nodup_map hids hseat hs
    rw [← hid]
    exact (ScanTask.swept_id now old).symm
  rw [← hsame, ← seat_swept]
  exact of_decide_eq_true hpending

theorem claimScanTasks_answered (h : Seated db.seats) {now wall : Timestamp} (workerId : String)
    (localCapacity globalLimit : ℤ) (leaseSeconds : ℕ) :
    Call.Answered db ⟨now, wall, .claimScanTasks workerId localCapacity globalLimit leaseSeconds⟩ := by
  by_cases hcapacity : 0 < localCapacity
  · have hids : (db.scanTasks.map (·.id)).Nodup := by
      have hkeys := h.ids
      unfold Database.seats at hkeys
      rwa [List.map_map] at hkeys
    have hclaim := claimScanTasks_eq workerId globalLimit leaseSeconds now wall hids hcapacity
    set claimed := db.headIds
      (min localCapacity (max (globalLimit - (db.remainingTasks now).length) 0)) now
    set due := now + leaseSeconds * microsPerSecond
    have hwaits : ∀ s ∈ db.seats, s.id ∈ claimed → (s.swept now).status = .pending :=
      fun s hs => claimed_waits h.ids hs
    have hacts : ∀ s, Call.acts db
        ⟨now, wall, .claimScanTasks workerId localCapacity globalLimit leaseSeconds⟩ s =
        (if s.isExpired now then [.expire now] else []) ++
          if s.id ∈ claimed then [.claim workerId due] else [] := by
      intro s
      simp only [Call.acts, perform, hcapacity, decide_true, Bool.true_and, hclaim]
      rfl
    apply Call.Answered.rewritten h (g := fun s =>
      if s.id ∈ claimed then (s.swept now).running workerId now due else s.swept now)
    · show (claimScanTasks workerId localCapacity globalLimit leaseSeconds now wall db).2.seats = _
      unfold Database.seats
      rw [hclaim, refreshScanBatches_scanTasks, withRunning_swept_scanTasks, List.map_map,
        List.map_map]
      apply List.map_congr_left
      intro t _
      dsimp only [Function.comp_apply]
      rw [← seat_swept, show t.seat.id = t.id from rfl]
      split_ifs <;> rfl
    · have hkept : ∀ s : Seat, (s.swept now).id = s.id ∧ (s.swept now).deviceId = s.deviceId := by
        intro s
        unfold Seat.swept
        split_ifs <;> exact ⟨rfl, rfl⟩
      constructor
      · intro s
        split_ifs <;> exact (hkept s).1
      · intro s
        split_ifs <;> exact (hkept s).2
      · intro s hs hactive
        split_ifs at hactive with hmem
        · apply Seat.swept_active now
          rw [hwaits s hs hmem]
          rfl
        · exact Seat.swept_active now hactive
      · intro s _ hleased
        split_ifs
        · exact ⟨rfl, rfl, rfl⟩
        · exact Seat.swept_leaseOk hleased now
    · intro s hs hidle
      have hnotExpired : s.isExpired now = false := by
        cases hexpired : s.isExpired now with
        | false => rfl
        | true =>
          simp only [Seat.isExpired, Bool.and_eq_true, decide_eq_true_eq] at hexpired
          rw [hexpired.1] at hidle
          cases hidle
      have hnotClaimed : s.id ∉ claimed := by
        intro hmem
        have hactive : s.status.isActive = true := by
          apply Seat.swept_active now
          rw [hwaits s hs hmem]
          rfl
        rw [hidle] at hactive
        cases hactive
      rw [hacts, hnotExpired, if_neg hnotClaimed]
      rfl
    · intro s hs hactive
      rw [hacts]
      by_cases hpending : s.status = .pending
      · have hnotExpired : s.isExpired now = false := by simp [Seat.isExpired, hpending]
        have hswept : s.swept now = s := by simp [Seat.swept, hnotExpired]
        rw [hnotExpired, hswept, Seat.job_pending hpending]
        by_cases hmem : s.id ∈ claimed
        · simp [hmem, Machine.run, step, Seat.running, Seat.job, ScanTaskStatus.isActive]
        · rw [if_neg hmem, if_neg hmem, if_pos hactive, Seat.job_pending hpending]
          rfl
      · obtain ⟨hrunning, worker, old, hworker, hold⟩ :=
          (h.leased s hs).lease hactive hpending
        by_cases hexpired : s.isExpired now = true
        · have hover : old ≤ now := by
            simpa [Seat.isExpired, hrunning, hold] using hexpired
          rw [Seat.job_running hrunning hworker hold, hexpired]
          by_cases hmem : s.id ∈ claimed <;>
            simp [hmem, hover, hexpired, Machine.run, step, Seat.swept, Seat.running, Seat.job,
              ScanTaskStatus.isActive]
        · have hswept : s.swept now = s := by simp [Seat.swept, hexpired]
          have hnotClaimed : s.id ∉ claimed := by
            intro hmem
            have hwaiting := hwaits s hs hmem
            rw [hswept] at hwaiting
            exact hpending hwaiting
          rw [if_neg hexpired, if_neg hnotClaimed, if_neg hnotClaimed, hswept, if_pos hactive]
          rfl
  · have hnothing : claimScanTasks workerId localCapacity globalLimit leaseSeconds now wall db =
        ([], db) := by
      unfold claimScanTasks
      rw [if_pos (not_lt.mp hcapacity)]
    apply Call.Answered.refused h
    · funext s
      simp [Call.acts, perform, hnothing, hcapacity]
    · exact congrArg Prod.snd hnothing

/-- The row of the task is held by the worker. -/
def Seat.isHeldBy (workerId : String) (now : Timestamp) (s : Seat) : Bool :=
  s.status = .running && s.workerId = some workerId && s.leaseExpiresAt.any (now < ·)

theorem seat_isHeldBy (workerId : String) (now : Timestamp) (t : ScanTask) :
    t.seat.isHeldBy workerId now = t.isHeldBy workerId now := by
  unfold Seat.isHeldBy ScanTask.isHeldBy ScanTask.isLeased ScanTask.seat
  cases t.leaseExpiresAt <;> simp

/-- The lease of a held task. -/
theorem Seat.held {workerId : String} {now : Timestamp} {s : Seat}
    (h : s.isHeldBy workerId now = true) : s.status = .running ∧ ∃ due, now < due ∧
      s.workerId = some workerId ∧ s.leaseExpiresAt = some due := by
  simp only [Seat.isHeldBy, Bool.and_eq_true, decide_eq_true_eq, Option.any_eq_true] at h
  obtain ⟨⟨hrunning, hworker⟩, due, hdue, hlive⟩ := h
  exact ⟨hrunning, due, hlive, hworker, hdue⟩

theorem Database.seats_ids (db : Database) :
    db.seats.map (·.id) = db.scanTasks.map (·.id) := by
  unfold Database.seats
  rw [List.map_map]
  rfl

/-- The answer of a renewal lists the tasks that are not held. -/
theorem mem_lost_iff (h : Seated db.seats) {workerId : String} {taskIds : List ℕ}
    {leaseSeconds : ℕ} {now : Timestamp} {s : Seat} (hs : s ∈ db.seats) (hid : s.id ∈ taskIds) :
    s.id ∈ (renewScanLeases workerId taskIds leaseSeconds now db).1 ↔
      s.isHeldBy workerId now = false := by
  obtain ⟨t, ht, rfl⟩ := List.mem_map.mp hs
  have hsome : taskIds.isEmpty = false := by
    cases taskIds with
    | nil => cases hid
    | cons _ _ => rfl
  unfold renewScanLeases
  rw [hsome, seat_isHeldBy]
  simp only [Bool.false_eq_true, if_false, List.mem_filter, List.mem_dedup, hid, true_and,
    decide_eq_true_eq, List.mem_map, not_exists, not_and, Bool.and_eq_true]
  constructor
  · intro hnone
    cases hheld : t.isHeldBy workerId now with
    | false => rfl
    | true => exact absurd rfl (hnone t ⟨ht, hid, hheld⟩)
  · rintro hnotHeld u ⟨hu, -, hheld⟩ hsame
    have hids := h.ids
    rw [Database.seats_ids] at hids
    rw [List.inj_on_of_nodup_map hids hu ht hsame, hnotHeld] at hheld
    cases hheld

theorem acts_renewScanLeases (h : Seated db.seats) (now wall : Timestamp) (workerId : String)
    (taskIds : List ℕ) (leaseSeconds : ℕ) {s : Seat} (hs : s ∈ db.seats) :
    Call.acts db ⟨now, wall, .renewScanLeases workerId taskIds leaseSeconds⟩ s =
      if s.id ∈ taskIds ∧ s.isHeldBy workerId now = true then
        [.renew workerId now (now + leaseSeconds * microsPerSecond)]
      else [] := by
  simp only [Call.acts, perform]
  apply if_congr _ rfl rfl
  apply and_congr_right
  intro hid
  rw [mem_lost_iff h hs hid, Bool.not_eq_false]

theorem renewScanLeases_answered (h : Seated db.seats) {now wall : Timestamp} (workerId : String)
    (taskIds : List ℕ) (leaseSeconds : ℕ) :
    Call.Answered db ⟨now, wall, .renewScanLeases workerId taskIds leaseSeconds⟩ := by
  set due := now + leaseSeconds * microsPerSecond
  have hacts : ∀ s ∈ db.seats, Call.acts db
      ⟨now, wall, .renewScanLeases workerId taskIds leaseSeconds⟩ s =
      if s.id ∈ taskIds ∧ s.isHeldBy workerId now = true then [.renew workerId now due] else [] :=
    fun s hs => acts_renewScanLeases h now wall workerId taskIds leaseSeconds hs
  apply Call.Answered.rewritten h (g := fun s =>
    if s.id ∈ taskIds ∧ s.isHeldBy workerId now = true then
      { s with heartbeatAt := some now, leaseExpiresAt := some due }
    else s)
  · show (renewScanLeases workerId taskIds leaseSeconds now db).2.seats = _
    unfold renewScanLeases
    split_ifs with hempty
    · rw [List.isEmpty_iff.mp hempty]
      simp
    · unfold Database.seats
      rw [List.map_map, List.map_map]
      apply List.map_congr_left
      intro t _
      simp only [Function.comp_apply, Bool.and_eq_true, decide_eq_true_eq, seat_isHeldBy,
        show t.seat.id = t.id from rfl]
      split_ifs <;> rfl
  · constructor
    · intro s
      split_ifs <;> rfl
    · intro s
      split_ifs <;> rfl
    · intro s _ hactive
      split_ifs at hactive <;> exact hactive
    · intro s _ hleased
      split_ifs with hheld
      · obtain ⟨hrunning, -⟩ := Seat.held hheld.2
        unfold Seat.LeaseOk at hleased ⊢
        rw [if_pos hrunning] at hleased
        rw [if_pos hrunning]
        exact ⟨hleased.1, rfl, rfl⟩
      · exact hleased
  · intro s hs hidle
    rw [hacts s hs, if_neg]
    rintro ⟨-, hheld⟩
    rw [(Seat.held hheld).1] at hidle
    cases hidle
  · intro s hs hactive
    rw [hacts s hs]
    split_ifs with hheld
    · obtain ⟨hrunning, old, hlive, hworker, hold⟩ := Seat.held hheld.2
      rw [Seat.job_running hrunning hworker hold]
      simp [Machine.run, step, hlive, Seat.job, hrunning, hworker]
    · rfl

/-! ## Settling and cancelling -/

theorem heldTask_seat {workerId : String} {taskId : ℕ} {now : Timestamp} {task : ScanTask}
    (hheld : heldTask workerId taskId now db = some task) :
    task.seat ∈ db.seats ∧ task.id = taskId ∧ task.seat.isHeldBy workerId now = true := by
  have hfound := List.find?_some hheld
  simp only [Bool.and_eq_true, decide_eq_true_eq] at hfound
  refine ⟨List.mem_map_of_mem (List.mem_of_find?_eq_some hheld), hfound.1, ?_⟩
  rw [seat_isHeldBy]
  exact hfound.2

/-- A task that its worker settles is over. -/
theorem settled_answered (h : Seated db.seats) {workerId : String} {taskId : ℕ}
    {task : ScanTask} (hheld : heldTask workerId taskId call.now db = some task)
    (hacts : call.acts db = fun s => if s.id = taskId then [.settle workerId call.now] else [])
    (status : ScanTaskStatus) {f : ScanTask → ScanTask} {mid : Database}
    (hstatus : status.isTerminal = true)
    (hf : ∀ t, (f t).id = t.id ∧ (f t).deviceId = t.deviceId) (hmid : mid.scanTasks = db.scanTasks)
    (hdone : (perform call db).2 = settleTask task.id status f call.wall mid) :
    call.Answered db := by
  obtain ⟨hmem, hid, hholds⟩ := heldTask_seat hheld
  obtain ⟨hrunning, due, hlive, hworker, hdue⟩ := Seat.held hholds
  have hover : status.isActive = false := by
    simpa [ScanTaskStatus.isTerminal] using hstatus
  have hsame : ∀ s ∈ db.seats, s.id = taskId → s = task.seat := fun s hs hsid =>
    List.inj_on_of_nodup_map h.ids hs hmem (hsid.trans hid.symm)
  apply Call.Answered.rewritten h (g := fun s =>
    if s.id = taskId then
      { s with status := status, workerId := none, leaseExpiresAt := none, heartbeatAt := none }
    else s)
  · rw [hdone, settleTask, seats_refresh]
    unfold Database.seats
    rw [moveTask_scanTasks, hmid, List.map_map, List.map_map]
    apply List.map_congr_left
    intro t _
    dsimp only [Function.comp_apply]
    rw [hid, show t.seat.id = t.id from rfl]
    split_ifs with htask
    · unfold ScanTask.seat
      simp only [ScanTask.releaseLease, Seat.mk.injEq, and_true]
      exact hf t
    · rfl
  · constructor
    · intro s
      split_ifs <;> rfl
    · intro s
      split_ifs <;> rfl
    · intro s _ hactive
      split_ifs at hactive
      · rw [hover] at hactive
        cases hactive
      · exact hactive
    · intro s _ hleased
      split_ifs
      · have hnotRunning : status ≠ .running := by
          intro hstill
          rw [hstill] at hover
          cases hover
        unfold Seat.LeaseOk
        rw [if_neg hnotRunning]
        exact ⟨rfl, rfl, rfl⟩
      · exact hleased
  · intro s hs hidle
    rw [hacts]
    dsimp only
    rw [if_neg]
    intro hsid
    rw [hsame s hs hsid, hrunning] at hidle
    cases hidle
  · intro s hs hactive
    rw [hacts]
    dsimp only
    by_cases hsid : s.id = taskId
    · have hjob : s.job = { ticket := s.id, lease := some (workerId, due) } := by
        rw [hsame s hs hsid]
        exact Seat.job_running hrunning hworker hdue
      rw [hjob]
      simp [hsid, Machine.run, step, hlive, hover]
    · simp [hsid, hactive]

theorem persistOutcome_answered (h : Seated db.seats) (workerId : String) (taskId : ℕ)
    {outcome : ScanOutcome}
    (hperform : perform call db = Reply.commit .settled db
      (persistOutcome workerId taskId outcome call.now call.wall db))
    (hsettled : ∀ success, (perform call db).1 = .settled success →
      call.acts db = fun s => if s.id = taskId then [.settle workerId call.now] else [])
    (hraised : ∀ e, (perform call db).1 = .raised e → call.acts db = fun _ => []) :
    call.Answered db := by
  cases hpersist : persistOutcome workerId taskId outcome call.now call.wall db with
  | error e =>
    rw [hpersist] at hperform
    apply Call.Answered.refused h (hraised e (congrArg Prod.fst hperform))
    rw [hperform]
    rfl
  | ok r =>
    rw [hpersist] at hperform
    unfold persistOutcome at hpersist
    split at hpersist
    · cases hpersist
    · rename_i task hheld
      split at hpersist
      · cases hpersist
      · rename_i run mid hadd
        cases hpersist
        apply settled_answered h hheld (hsettled _ (congrArg Prod.fst hperform))
          _ (settledStatus_isTerminal outcome) (f := ScanTask.withOutcome run outcome)
          (fun _ => ⟨rfl, rfl⟩) (addScanOutcome_ok hadd).2.2.1
        rw [hperform]
        rfl

theorem failUnexpectedTask_answered (h : Seated db.seats) {now wall : Timestamp}
    (workerId : String) (taskId : ℕ) :
    Call.Answered db ⟨now, wall, .failUnexpectedTask workerId taskId⟩ := by
  cases hheld : heldTask workerId taskId now db with
  | none =>
    have hraised : perform ⟨now, wall, .failUnexpectedTask workerId taskId⟩ db =
        (.raised (.taskLeaseLost taskId), db) := by
      simp only [perform, failUnexpectedTask, hheld]
    apply Call.Answered.refused h
    · funext s
      simp only [Call.acts, hraised]
    · rw [hraised]
  | some task =>
    have hfailed : perform ⟨now, wall, .failUnexpectedTask workerId taskId⟩ db =
        (.failed, settleTask task.id .failed (ScanTask.withInternalError wall) wall db) := by
      simp only [perform, failUnexpectedTask, hheld]
    refine settled_answered h hheld ?_ .failed rfl
      (f := ScanTask.withInternalError wall) (fun _ => ⟨rfl, rfl⟩) rfl ?_
    · funext s
      simp only [Call.acts, hfailed]
    · rw [hfailed]

/-- What a granted cancellation makes of a task. -/
def Seat.cancelled (deviceId : ℕ) (s : Seat) : Seat :=
  if s.serves deviceId then { s with status := .cancelled } else s

/-- A cancellation is granted when the device has no running task. -/
theorem cancelDevice_seats (h : Seated db.seats) (deviceId : ℕ) (wall : Timestamp) :
    (cancelDevice deviceId wall db = (false, db)) ∨
    ((cancelDevice deviceId wall db).1 = true ∧
      (cancelDevice deviceId wall db).2.seats = db.seats.map (Seat.cancelled deviceId) ∧
      ∀ s ∈ db.seats, s.serves deviceId = true → s.status = .pending) := by
  unfold cancelDevice
  split
  · rename_i hnone
    have hidle : ∀ s ∈ db.seats, s.serves deviceId = false := by
      intro s hs
      obtain ⟨t, ht, rfl⟩ := List.mem_map.mp hs
      have hother := List.find?_eq_none.mp hnone t ht
      exact Bool.eq_false_iff.mpr hother
    right
    refine ⟨rfl, ?_, ?_⟩
    · symm
      apply (List.map_congr_left _).trans (List.map_id _)
      intro s hs
      unfold Seat.cancelled
      rw [hidle s hs]
      rfl
    · intro s hs hserves
      rw [hidle s hs] at hserves
      cases hserves
  · rename_i task hactive
    have hmem : task.seat ∈ db.seats := List.mem_map_of_mem (List.mem_of_find?_eq_some hactive)
    have hserves : task.seat.serves deviceId = true := by
      have hfound := List.find?_some hactive
      exact hfound
    obtain ⟨hdevice, hlives⟩ := Seat.serves_iff.mp hserves
    split_ifs with hrunning
    · exact Or.inl rfl
    · have hpending : task.seat.status = .pending := by
        by_contra hother
        exact hrunning ((h.leased _ hmem).lease hlives hother).1
      have hsame : ∀ s ∈ db.seats, s.serves deviceId = true → s = task.seat := by
        intro s hs hown
        obtain ⟨hsdevice, hsactive⟩ := Seat.serves_iff.mp hown
        exact h.unique s hs _ hmem hsactive hlives (hsdevice.trans hdevice.symm)
      right
      refine ⟨rfl, ?_, fun s hs hown => hsame s hs hown ▸ hpending⟩
      dsimp only
      rw [seats_refresh]
      unfold Database.seats
      rw [moveTask_scanTasks, List.map_map, List.map_map]
      apply List.map_congr_left
      intro t ht
      dsimp only [Function.comp_apply]
      unfold Seat.cancelled
      by_cases hown : t.seat.serves deviceId = true
      · have hid : t.id = task.id :=
          congrArg Seat.id (hsame t.seat (List.mem_map_of_mem ht) hown)
        rw [if_pos hid, if_pos hown]
        rfl
      · rw [if_neg hown, if_neg]
        intro hid
        have hseat := List.inj_on_of_nodup_map h.ids (List.mem_map_of_mem ht) hmem hid
        exact hown (hseat ▸ hserves)

theorem Seat.keepsCancelled (deviceId : ℕ)
    (hwaits : ∀ s ∈ seats, s.serves deviceId = true → s.status = .pending) :
    KeepsSeats seats (Seat.cancelled deviceId) := by
  constructor
  · intro s
    unfold Seat.cancelled
    split_ifs <;> rfl
  · intro s
    unfold Seat.cancelled
    split_ifs <;> rfl
  · intro s _ hactive
    unfold Seat.cancelled at hactive
    split_ifs at hactive
    · cases hactive
    · exact hactive
  · intro s hs hleased
    unfold Seat.cancelled
    split_ifs with hserves
    · unfold Seat.LeaseOk at hleased
      rw [hwaits s hs hserves, if_neg (by decide)] at hleased
      exact hleased
    · exact hleased

/-- The moves of a granted cancellation. -/
def cancellations (deviceId : ℕ) (s : Seat) : List JobAct :=
  if s.serves deviceId then [.cancel] else []

theorem cancellations_idle {deviceId : ℕ} {s : Seat} (hidle : s.status.isActive = false) :
    cancellations deviceId s = [] := by
  simp [cancellations, Seat.serves, hidle]

theorem cancelled_run (h : Seated seats) (deviceId : ℕ)
    (hwaits : ∀ s ∈ seats, s.serves deviceId = true → s.status = .pending) :
    Machine.run (Machine.each step) (jobOf seats) (movesOf seats (cancellations deviceId)) =
      some (jobOf (seats.map (Seat.cancelled deviceId))) := by
  apply h.run_map (Seat.keepsCancelled deviceId hwaits)
  · exact fun s _ => cancellations_idle
  · intro s hs hactive
    unfold cancellations Seat.cancelled
    by_cases hserves : s.serves deviceId = true
    · rw [Seat.job_pending (hwaits s hs hserves), if_pos hserves, if_pos hserves]
      rfl
    · rw [if_neg hserves, if_neg hserves, if_pos hactive]
      rfl

theorem cancelDevice_answered (h : Seated db.seats) {now wall : Timestamp} (deviceId : ℕ) :
    Call.Answered db ⟨now, wall, .cancelDevice deviceId⟩ := by
  rcases cancelDevice_seats h deviceId wall with hrefused | ⟨hgranted, hseats, hwaits⟩
  · apply Call.Answered.refused h
    · funext s
      simp only [Call.acts, perform, hrefused]
    · exact congrArg Prod.snd hrefused
  · have hacts : Call.acts db ⟨now, wall, .cancelDevice deviceId⟩ = cancellations deviceId := by
      funext s
      simp only [Call.acts, perform, hgranted, cancellations]
    have hmoves : Call.moves db ⟨now, wall, .cancelDevice deviceId⟩ =
        movesOf db.seats (cancellations deviceId) := by
      unfold Call.moves
      rw [show (perform ⟨now, wall, .cancelDevice deviceId⟩ db).2.seats =
          db.seats.map (Seat.cancelled deviceId) from hseats,
        List.drop_of_length_le (List.length_map _).le, hacts]
      exact List.append_nil _
    refine ⟨?_, ?_, ?_⟩
    · intro s _ hidle
      rw [hacts]
      exact cancellations_idle hidle
    · show Seated (cancelDevice deviceId wall db).2.seats
      rw [hseats]
      exact h.map (Seat.keepsCancelled deviceId hwaits)
    · rw [hmoves]
      show _ = some (jobOf (cancelDevice deviceId wall db).2.seats)
      rw [hseats]
      exact cancelled_run h deviceId hwaits

/-- Every transaction of the queue is a run of the leased jobs. -/
theorem perform_answered (h : Seated db.seats) (hlinked : db.Linked) (call : Call) :
    call.Answered db := by
  obtain ⟨now, wall, transaction⟩ := call
  have hcommit : ∀ {α : Type} {reply : α → Reply} {result : Except QueueError (α × Database)}
      {transaction : Transaction},
      perform ⟨now, wall, transaction⟩ db = Reply.commit reply db result →
      (∀ r, result = .ok r → Enqueues db r.2) →
      Enqueues db (perform ⟨now, wall, transaction⟩ db).2 := by
    intro α reply result transaction hperform hok
    rw [hperform]
    cases result with
    | error e => exact .of_seats rfl
    | ok r => exact hok r rfl
  cases transaction with
  | enqueueDevice queueSize deviceId trigger priority batchId =>
    exact .enqueued h rfl (hcommit rfl fun r => enqueueDevice_enqueues hlinked)
  | createBatch queueSize batchType deviceIds clusterId sourceImportBatchId =>
    exact .enqueued h rfl (hcommit rfl fun r => createBatchInSession_enqueues hlinked)
  | createImportScanBatch queueSize importBatchId =>
    exact .enqueued h rfl (hcommit rfl fun r => createImportScanBatch_enqueues hlinked)
  | claimScanTasks workerId localCapacity globalLimit leaseSeconds =>
    exact claimScanTasks_answered h workerId localCapacity globalLimit leaseSeconds
  | renewScanLeases workerId taskIds leaseSeconds =>
    exact renewScanLeases_answered h workerId taskIds leaseSeconds
  | persistOutcome workerId taskId outcome =>
    apply persistOutcome_answered h workerId taskId rfl
    all_goals
      intro _ hreply
      funext s
      simp only [Call.acts, hreply]
  | recordTransactionConflict workerId taskId outcome =>
    apply persistOutcome_answered h workerId taskId rfl
    all_goals
      intro _ hreply
      funext s
      simp only [Call.acts, hreply]
  | failUnexpectedTask workerId taskId => exact failUnexpectedTask_answered h workerId taskId
  | cancelDevice deviceId => exact cancelDevice_answered h deviceId


/-! ## Runs of the application -/

/-- The moves of an action; a device that is deleted takes its waiting job with it. -/
def AppAction.moves (db : Database) : AppAction → List (ℕ × JobAct)
  | .queue call => call.moves db
  | .request (.deleteDevice deviceId wall) =>
    match deleteDevice deviceId wall db with
    | .ok _ => movesOf db.seats (cancellations deviceId)
    | .error _ => []
  | _ => []

/-- Without its waiting job a device can go, and the jobs of the others stay. -/
theorem deleteDevice_answered (h : Seated db.seats) {deviceId : ℕ} {wall : Timestamp}
    (hdelete : deleteDevice deviceId wall db = .ok db') : Seated db'.seats ∧
      Machine.run (Machine.each step) db.jobs (movesOf db.seats (cancellations deviceId)) =
        some db'.jobs := by
  unfold deleteDevice at hdelete
  split_ifs at hdelete
  dsimp only at hdelete
  split_ifs at hdelete with hgranted
  cases hdelete
  rcases cancelDevice_seats h deviceId wall with hrefused | ⟨-, hseats, hwaits⟩
  · rw [hrefused] at hgranted
    cases hgranted
  have hcancelled := h.map (Seat.keepsCancelled deviceId hwaits)
  have hdropped : ((cancelDevice deviceId wall db).2.dropDevice deviceId).seats =
      (db.seats.map (Seat.cancelled deviceId)).filter (·.deviceId ≠ deviceId) := by
    rw [← hseats]
    unfold Database.seats Database.dropDevice
    dsimp only
    rw [List.filter_map]
    rfl
  rw [hdropped]
  refine ⟨?_, ?_⟩
  · obtain ⟨hids, hunique, hleased⟩ := hcancelled
    refine ⟨hids.sublist (List.filter_sublist.map _), ?_, ?_⟩
    · exact fun s hs u hu => hunique s (List.mem_of_mem_filter hs) u (List.mem_of_mem_filter hu)
    · exact fun s hs => hleased s (List.mem_of_mem_filter hs)
  · unfold Database.jobs
    rw [cancelled_run h deviceId hwaits, hdropped, Option.some.injEq]
    funext other
    unfold jobOf
    rw [List.find?_filter]
    congr 1
    by_cases hother : other = deviceId
    · subst hother
      have hnone : ∀ s ∈ db.seats.map (Seat.cancelled other), ¬s.serves other = true := by
        intro s' hs' hserves
        obtain ⟨s, hs, rfl⟩ := List.mem_map.mp hs'
        obtain ⟨hdevice, hactive⟩ := Seat.serves_iff.mp hserves
        unfold Seat.cancelled at hdevice hactive
        split_ifs at hdevice hactive with hown
        · cases hactive
        · exact hown (Seat.serves_iff.mpr ⟨hdevice, hactive⟩)
      rw [List.find?_eq_none.mpr hnone, List.find?_eq_none.mpr]
      intro s hs
      simp [hnone s hs]
    · congr 1
      funext s
      by_cases hserves : s.serves other = true
      · have hdevice := (Seat.serves_iff.mp hserves).1
        simp [hserves, hdevice, hother]
      · simp [hserves]

theorem seats_of_scans (h : db'.scans = db.scans) : db'.seats = db.seats :=
  seats_of_tasks (congrArg Scans.tasks h)

/-- Every action of the application is a run of the leased jobs. -/
theorem appStep_answered (h : Seated db.seats) (hlinked : db.Linked) {action : AppAction}
    (hstep : appStep b db action = some db') : Seated db'.seats ∧
      Machine.run (Machine.each step) db.jobs (action.moves db) = some db'.jobs := by
  have hsame : db'.seats = db.seats → action.moves db = [] → Seated db'.seats ∧
      Machine.run (Machine.each step) db.jobs (action.moves db) = some db'.jobs := by
    intro hseats hmoves
    unfold Database.jobs
    rw [hmoves, hseats]
    exact ⟨h, rfl⟩
  cases action with
  | queue call =>
    simp only [appStep] at hstep
    split_ifs at hstep
    cases hstep
    obtain ⟨-, hseated, hrun⟩ := perform_answered h hlinked call
    exact ⟨hseated, hrun⟩
  | request request =>
    cases request with
    | deleteDevice deviceId wall =>
      simp only [appStep, requestStep, performRequest] at hstep
      cases hdelete : deleteDevice deviceId wall db with
      | error e =>
        rw [hdelete] at hstep
        cases hstep
        exact hsame rfl (by simp only [AppAction.moves, hdelete])
      | ok deleted =>
        rw [hdelete] at hstep
        cases hstep
        simp only [AppAction.moves, hdelete]
        exact deleteDevice_answered h hdelete
    | createDevice payload | updateDevice deviceId payload | addCluster payload
    | editCluster clusterId payload | removeCluster clusterId
    | importDevices filename rows wall =>
      simp only [appStep] at hstep
      rcases requestStep_scans hstep with hscans | ⟨_, _, hrequest, -⟩
      · exact hsame (seats_of_scans hscans) rfl
      · cases hrequest
  | importRow copy rowNumber cells =>
    simp only [appStep] at hstep
    split_ifs at hstep
    cases hstep
    exact hsame (seats_of_scans (importRow_scans ..)) rfl
  | claimTests workerId localCapacity globalLimit leaseSeconds now wall =>
    cases hstep
    exact hsame (seats_of_scans (claimImportTests_only ..).scans) rfl
  | claimSpecific workerId rowId globalLimit leaseSeconds now wall =>
    cases hstep
    exact hsame (seats_of_scans (claimSpecific_only ..).scans) rfl
  | renewTests workerId rowIds leaseSeconds now =>
    cases hstep
    exact hsame (seats_of_scans (renewImportTestLeases_only ..).scans) rfl
  | saveResult workerId rowId outcome now wall =>
    simp only [appStep] at hstep
    split at hstep
    · cases hstep
      exact hsame rfl rfl
    · rename_i hsave
      cases hstep
      exact hsame (seats_of_scans (saveResult_only hsave).scans) rfl
  | deleteScanRuns scanIds =>
    cases hstep
    refine hsame ?_ rfl
    unfold Database.seats deleteScanRuns
    dsimp only
    rw [List.map_map]
    rfl
  | createImportBatch filename totalRows | finishImport copy wall | deleteConnectionRecords scanIds
  | syncObservations lowerScanId upperScanId =>
    cases hstep
    exact hsame rfl rfl

/-- The moves of a run. -/
def jobMoves (b : Backend) (actions : List AppAction) : List (ℕ × JobAct) :=
  Machine.trace (appStep b) AppAction.moves {} actions

theorem seated_empty : Seated [] :=
  ⟨List.nodup_nil, fun _ hs => absurd hs List.not_mem_nil, fun _ hs => absurd hs List.not_mem_nil⟩

/-- From any database in order, the calls of a run answer with moves that lead to its jobs. -/
theorem run_answered {start : Database} (hsound : start.Sound) (hseated : Seated start.seats)
    {actions : List AppAction} (hrun : Machine.run (appStep b) start actions = some db) :
    (db.Sound ∧ Seated db.seats) ∧ Machine.run (Machine.each step) start.jobs
      (Machine.trace (appStep b) AppAction.moves start actions) = some db.jobs := by
  apply Machine.run_trace (fun db => db.Sound ∧ Seated db.seats) Database.jobs _ actions start db
    ⟨hsound, hseated⟩ hrun
  rintro db action db' ⟨hsound, hseated⟩ hstep
  obtain ⟨hseated', hmoves⟩ := appStep_answered hseated hsound.linked hstep
  exact ⟨⟨hsound.appStep hstep, hseated'⟩, hmoves⟩

/-- Along every run the queue is a table of leased jobs, one for a device: what the calls have
answered are moves that the table allows, and they lead to the jobs that are stored. -/
theorem jobs_of_run {actions : List AppAction}
    (hrun : Machine.run (appStep b) {} actions = some db) : Seated db.seats ∧
      Machine.run (Machine.each step) (fun _ => none) (jobMoves b actions) = some db.jobs := by
  obtain ⟨⟨-, hseated⟩, hmoves⟩ := run_answered .empty seated_empty hrun
  exact ⟨hseated, hmoves⟩

theorem scanThenDelete_jobs :
    ∃ db, Machine.run (appStep plainBackend) {} scanThenDelete = some db ∧ Seated db.seats ∧
      Machine.run (Machine.each step) (fun _ => none) (jobMoves plainBackend scanThenDelete) =
        some db.jobs := by
  have hrun : (Machine.run (appStep plainBackend) {} scanThenDelete).isSome = true := by
    decide +kernel
  obtain ⟨db, hdb⟩ := Option.isSome_iff_exists.mp hrun
  exact ⟨db, hdb, jobs_of_run hdb⟩

/-- No job of a device is lost and none is done twice: each that was queued is settled, cancelled
or still there, and each claim has expired, was settled or is still running. -/
theorem jobs_conserved {actions : List AppAction}
    (hrun : Machine.run (appStep b) {} actions = some db) (deviceId : ℕ) :
    let acts := Machine.actionsOf deviceId (jobMoves b actions)
    acts.countP Act.isSubmit = acts.countP Act.isEnd +
        (if (activeTask db deviceId).isSome then 1 else 0) ∧
      acts.countP Act.isClaim = acts.countP Act.isRelease +
        if (activeTask db deviceId).any (·.status = .running) then 1 else 0 := by
  intro acts
  obtain ⟨⟨-, hseated⟩, hmoves⟩ := run_answered .empty seated_empty hrun
  have hacts : Machine.run step none acts = some (db.jobs deviceId) :=
    Machine.run_each_iff.mp hmoves deviceId
  obtain ⟨hjobs, hleases⟩ := run_conserves hacts
  have hpresent : present (db.jobs deviceId) =
      if (activeTask db deviceId).isSome then 1 else 0 := by
    rw [jobs_eq, present, Option.isSome_map]
  have hleased : leased (db.jobs deviceId) =
      if (activeTask db deviceId).any (·.status = .running) then 1 else 0 := by
    rw [jobs_eq, leased]
    cases hactive : activeTask db deviceId with
    | none => rfl
    | some task =>
      have hmem : task.seat ∈ db.seats := List.mem_map_of_mem (List.mem_of_find?_eq_some hactive)
      have hok := hseated.leased _ hmem
      unfold Seat.LeaseOk at hok
      by_cases hrunning : task.status = .running
      · rw [if_pos (show task.seat.status = .running from hrunning)] at hok
        obtain ⟨worker, hworker⟩ := Option.isSome_iff_exists.mp hok.1
        obtain ⟨due, hdue⟩ := Option.isSome_iff_exists.mp hok.2.1
        simp [Seat.job_running hrunning hworker hdue, hrunning]
      · have hstill : task.seat.status ≠ .running := hrunning
        simp [Seat.job, hstill, hrunning]
  have hempty : present (ι := ℕ) (ω := String) (τ := Timestamp) none = 0 ∧
      leased (ι := ℕ) (ω := String) (τ := Timestamp) none = 0 := ⟨rfl, rfl⟩
  rw [hempty.1, hpresent] at hjobs
  rw [hempty.2, hleased] at hleases
  exact ⟨by omega, by omega⟩

theorem scanThenDelete_conserved : ∃ db,
    Machine.run (appStep plainBackend) {} scanThenDelete = some db ∧
      let acts := Machine.actionsOf 2 (jobMoves plainBackend scanThenDelete)
      acts.countP Act.isSubmit = acts.countP Act.isEnd +
          (if (activeTask db 2).isSome then 1 else 0) ∧
        acts.countP Act.isClaim = acts.countP Act.isRelease +
          if (activeTask db 2).any (·.status = .running) then 1 else 0 := by
  have hrun : (Machine.run (appStep plainBackend) {} scanThenDelete).isSome = true := by
    decide +kernel
  obtain ⟨db, hdb⟩ := Option.isSome_iff_exists.mp hrun
  exact ⟨db, hdb, jobs_conserved hdb 2⟩

end ConnectionTopology
