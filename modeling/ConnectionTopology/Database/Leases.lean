import ConnectionTopology.Database.Jobs

/-!
# A worker that renews in time

The heartbeat renews a lease before it is over, and nothing else is asked of the worker: whatever
the others do in the meantime, the task is still its own when it settles.
-/
namespace ConnectionTopology

open Leases

variable {db db' : Database} {b : Backend} {workerId : String} {taskId deviceId : ℕ}

/-- The call comes before the lease is over. -/
def AppAction.comesBefore (due : Timestamp) : AppAction → Bool
  | .queue call => call.now < due
  | _ => true

/-- The worker settles the task. -/
def AppAction.settles (workerId : String) (taskId : ℕ) : AppAction → Bool
  | .queue call => call.transaction.settlement = some (workerId, taskId)
  | _ => false

/-- The end of the lease after the action. -/
def AppAction.dueAfter (workerId : String) (taskId : ℕ) (due : Timestamp) : AppAction → Timestamp
  | .queue ⟨now, _, .renewScanLeases renewer taskIds leaseSeconds⟩ =>
    if renewer = workerId ∧ taskId ∈ taskIds then now + leaseSeconds * microsPerSecond else due
  | _ => due

/-- Every call comes before the lease is over, as the worker's renewals leave it, and the worker
does not settle the task yet. -/
def KeptUp (workerId : String) (taskId : ℕ) : Timestamp → List AppAction → Prop
  | _, [] => True
  | due, action :: rest => action.comesBefore due = true ∧
    action.settles workerId taskId = false ∧
      KeptUp workerId taskId (action.dueAfter workerId taskId due) rest

instance decidableKeptUp (workerId : String) (taskId : ℕ) :
    ∀ (due : Timestamp) (actions : List AppAction), Decidable (KeptUp workerId taskId due actions)
  | _, [] => isTrue trivial
  | due, action :: rest =>
    have := decidableKeptUp workerId taskId (action.dueAfter workerId taskId due) rest
    inferInstanceAs (Decidable (_ ∧ _ ∧ _))

/-- The end of the lease after the actions. -/
def dueAfterAll (workerId : String) (taskId : ℕ) : Timestamp → List AppAction → Timestamp
  | due, [] => due
  | due, action :: rest => dueAfterAll workerId taskId (action.dueAfter workerId taskId due) rest

/-- New tasks do not touch a lease. -/
theorem inTime_submissions {new : List Seat} {due : Timestamp} :
    InTime workerId due (Machine.actionsOf deviceId (submissions new)) ∧
      lastDue due (Machine.actionsOf deviceId (submissions new)) = due := by
  induction new with
  | nil => exact ⟨trivial, rfl⟩
  | cons s rest ih =>
    unfold submissions Machine.actionsOf at ih ⊢
    rw [List.map_cons, List.filter_cons]
    split_ifs
    · exact ih
    · exact ih

theorem acts_cancelDevice (db : Database) (now wall : Timestamp) (deviceId : ℕ) (s : Seat) :
    Call.acts db ⟨now, wall, .cancelDevice deviceId⟩ s = [] ∨
      Call.acts db ⟨now, wall, .cancelDevice deviceId⟩ s = [.cancel] := by
  simp only [Call.acts, perform]
  cases (cancelDevice deviceId wall db).1 <;> cases s.serves deviceId <;> simp

/-- What a call in time does to a task that is leased to the worker. -/
theorem acts_inTime {call : Call} {s : Seat} {due : Timestamp} (hseated : Seated db.seats)
    (hs : s ∈ db.seats) (hid : s.id = taskId) (hrunning : s.status = .running)
    (hworker : s.workerId = some workerId) (hdue : s.leaseExpiresAt = some due)
    (htime : call.now < due) (hsettles : call.transaction.settlement ≠ some (workerId, taskId)) :
    InTime workerId due (call.acts db s) ∧ lastDue due (call.acts db s) =
      (AppAction.queue call).dueAfter workerId taskId due := by
  obtain ⟨now, wall, transaction⟩ := call
  have hidle : InTime workerId due ([] : List JobAct) ∧ lastDue due ([] : List JobAct) = due :=
    ⟨trivial, rfl⟩
  cases transaction with
  | enqueueDevice queueSize deviceId trigger priority batchId => exact hidle
  | createBatch queueSize batchType deviceIds clusterId sourceImportBatchId => exact hidle
  | createImportScanBatch queueSize importBatchId => exact hidle
  | claimScanTasks claimant localCapacity globalLimit leaseSeconds =>
    simp only [Call.acts, perform, AppAction.dueAfter]
    split_ifs
    · exact ⟨⟨htime, trivial⟩, rfl⟩
    · exact ⟨⟨htime, trivial⟩, rfl⟩
    · exact ⟨trivial, rfl⟩
    · exact hidle
  | renewScanLeases renewer taskIds leaseSeconds =>
    rw [acts_renewScanLeases hseated now wall renewer taskIds leaseSeconds hs]
    have hheld : s.isHeldBy renewer now = true ↔ renewer = workerId := by
      simp [Seat.isHeldBy, hrunning, hworker, hdue, htime, eq_comm]
    simp only [hid, hheld, AppAction.dueAfter, and_comm]
    split_ifs
    · exact inTime_renew ..
    · exact hidle
  | persistOutcome settler settled outcome | recordTransactionConflict settler settled outcome
  | failUnexpectedTask settler settled =>
    have hother : s.id = settled → settler ≠ workerId := by
      rintro hsame rfl
      exact hsettles (by rw [← hid, hsame]; rfl)
    unfold Call.acts
    dsimp only
    cases (perform _ db).1 <;> dsimp only
    any_goals exact hidle
    split_ifs with hsame
    · exact ⟨⟨hother hsame, trivial⟩, rfl⟩
    · exact hidle
  | cancelDevice deviceId =>
    rcases acts_cancelDevice db now wall deviceId s with hacts | hacts <;> rw [hacts]
    · exact hidle
    · exact ⟨trivial, rfl⟩


/-- What the row of a task says when the worker has a lease on it until `due`. -/
def Database.LeasedTo (db : Database) (workerId : String) (taskId : ℕ) (due : Timestamp) : Prop :=
  ∃ t ∈ db.scanTasks, t.id = taskId ∧ t.status = .running ∧ t.workerId = some workerId ∧
    t.leaseExpiresAt = some due

instance (db : Database) (workerId : String) (taskId : ℕ) (due : Timestamp) :
    Decidable (db.LeasedTo workerId taskId due) :=
  inferInstanceAs (Decidable (∃ t ∈ _, _))

theorem Seat.of_job {s : Seat} {due : Timestamp}
    (h : s.job = { ticket := taskId, lease := some (workerId, due) }) : s.id = taskId ∧
      s.status = .running ∧ s.workerId = some workerId ∧ s.leaseExpiresAt = some due := by
  obtain ⟨hid, hlease⟩ := Job.mk.inj h
  split_ifs at hlease with hrunning
  obtain ⟨worker, hworker, hmapped⟩ := Option.bind_eq_some_iff.mp hlease
  obtain ⟨expires, hexpires, hpair⟩ := Option.map_eq_some_iff.mp hmapped
  obtain ⟨rfl, rfl⟩ := Prod.mk.inj hpair
  exact ⟨hid, hrunning, hworker, hexpires⟩

/-- The moves of an action in time leave the lease to the worker. -/
theorem moves_inTime {action : AppAction} {s : Seat} {due : Timestamp}
    (hseated : Seated db.seats) (hlinked : db.Linked) (hs : s ∈ db.seats) (hid : s.id = taskId)
    (hrunning : s.status = .running) (hworker : s.workerId = some workerId)
    (hdue : s.leaseExpiresAt = some due) (htime : action.comesBefore due = true)
    (hsettles : action.settles workerId taskId = false) :
    InTime workerId due (Machine.actionsOf s.deviceId (action.moves db)) ∧
      lastDue due (Machine.actionsOf s.deviceId (action.moves db)) =
        action.dueAfter workerId taskId due := by
  have hnone : InTime workerId due ([] : List JobAct) ∧ lastDue due ([] : List JobAct) = due :=
    ⟨trivial, rfl⟩
  have hactive : s.status.isActive = true := by
    rw [hrunning]
    rfl
  cases action with
  | queue call =>
    have hown := (perform_answered hseated hlinked call).idle
    have hacts := acts_inTime hseated hs hid hrunning hworker hdue (of_decide_eq_true htime)
      (of_decide_eq_false hsettles)
    have hnew : InTime workerId (lastDue due (call.acts db s)) (Machine.actionsOf s.deviceId
        (submissions ((perform call db).2.seats.drop db.seats.length))) ∧ _ := inTime_submissions
    obtain ⟨hall, hlast⟩ := inTime_append hacts.1 hnew.1
    simp only [AppAction.moves, Call.moves]
    rw [Machine.actionsOf_append, hseated.actionsOf hown, hseated.find? hs hactive]
    exact ⟨hall, hlast.trans (hnew.2.trans hacts.2)⟩
  | request request =>
    cases request with
    | deleteDevice deviceId wall =>
      simp only [AppAction.moves]
      split
      · rw [hseated.actionsOf fun _ _ => cancellations_idle, hseated.find? hs hactive]
        simp only [Option.elim, cancellations]
        split_ifs
        · exact ⟨trivial, rfl⟩
        · exact hnone
      · exact hnone
    | _ => exact hnone
  | _ => exact hnone

/-- The next action finds the lease where the last one left it. -/
theorem Database.LeasedTo.appStep {action : AppAction} {due : Timestamp} (hseated : Seated db.seats)
    (hlinked : db.Linked) (h : db.LeasedTo workerId taskId due) (htime : action.comesBefore due = true)
    (hsettles : action.settles workerId taskId = false) (hstep : appStep b db action = some db') :
    db'.LeasedTo workerId taskId (action.dueAfter workerId taskId due) := by
  obtain ⟨t, ht, hid, hrunning, hworker, hdue⟩ := h
  have hs : t.seat ∈ db.seats := List.mem_map_of_mem ht
  obtain ⟨-, hrun⟩ := appStep_answered hseated hlinked hstep
  have hown := Machine.run_each_iff.mp hrun t.deviceId
  have hjob : db.jobs t.deviceId = some { ticket := taskId, lease := some (workerId, due) } := by
    have hactive : t.seat.status.isActive = true := by
      rw [show t.seat.status = .running from hrunning]
      rfl
    have hfound := hseated.jobOf hs hactive
    rw [Seat.job_running hrunning hworker hdue] at hfound
    rw [← hid]
    exact hfound
  obtain ⟨hinTime, hlast⟩ :=
    moves_inTime hseated hlinked hs hid hrunning hworker hdue htime hsettles
  rw [hjob] at hown
  obtain ⟨hleased, -, -⟩ := run_inTime hinTime hown
  rw [hlast, jobs_eq, Option.map_eq_some_iff] at hleased
  obtain ⟨task, hactive, hkept⟩ := hleased
  exact ⟨task, List.mem_of_find?_eq_some hactive, Seat.of_job hkept⟩

theorem Database.LeasedTo.run {actions : List AppAction} {due : Timestamp} (hsound : db.Sound)
    (hseated : Seated db.seats) (h : db.LeasedTo workerId taskId due)
    (hkept : KeptUp workerId taskId due actions)
    (hrun : Machine.run (ConnectionTopology.appStep b) db actions = some db') :
    db'.Sound ∧ Seated db'.seats ∧
      db'.LeasedTo workerId taskId (dueAfterAll workerId taskId due actions) := by
  induction actions generalizing db due with
  | nil =>
    cases hrun
    exact ⟨hsound, hseated, h⟩
  | cons action rest ih =>
    obtain ⟨mid, hstep, hrest⟩ := Option.bind_eq_some_iff.mp hrun
    obtain ⟨htime, hsettles, hlater⟩ := hkept
    exact ih (hsound.appStep hstep) (appStep_answered hseated hsound.linked hstep).1
      (h.appStep hseated hsound.linked htime hsettles hstep) hlater hrest

/-- Before the lease is over, the worker's outcome is accepted. -/
theorem persistOutcome_of_leasedTo (hsound : db.Sound) (hseated : Seated db.seats) {due : Timestamp}
    (h : db.LeasedTo workerId taskId due) {outcome : ScanOutcome} {now : Timestamp}
    (hnow : now < due) (hown : ∀ t ∈ db.scanTasks, t.id = taskId → t.deviceId = outcome.deviceId)
    (wall : Timestamp) : ∃ success db',
      persistOutcome workerId taskId outcome now wall db = .ok (success, db') := by
  obtain ⟨t, ht, hid, hrunning, hworker, hdue⟩ := h
  have hheld : heldTask workerId taskId now db = some t := by
    have hholds : (t.id = taskId && t.isHeldBy workerId now) = true := by
      simp [hid, ScanTask.isHeldBy, ScanTask.isLeased, hrunning, hworker, hdue, hnow]
    unfold heldTask
    cases hfind : db.scanTasks.find? fun u => u.id = taskId && u.isHeldBy workerId now with
    | none => exact absurd hholds (List.find?_eq_none.mp hfind t ht)
    | some u =>
      have hids := hseated.ids
      rw [Database.seats_ids] at hids
      have hu := List.find?_some hfind
      simp only [Bool.and_eq_true, decide_eq_true_eq] at hu
      rw [List.inj_on_of_nodup_map hids (List.mem_of_find?_eq_some hfind) ht (hu.1.trans hid.symm)]
  have hdevice : ∃ d ∈ db.devices, d.id = outcome.deviceId := by
    obtain ⟨d, hd, hkey⟩ := List.mem_map.mp
      (hsound.linked.linked .taskDevice (List.mem_map_of_mem ht))
    exact ⟨d, hd, hkey.trans (hown t ht hid)⟩
  obtain ⟨run, mid, hadd⟩ := addScanOutcome_of_device hdevice
  unfold persistOutcome
  rw [hheld]
  dsimp only
  rw [hadd]
  exact ⟨_, _, rfl⟩

/-- Whatever the others do, a worker whose renewals keep its lease ahead of the calls still has its
task, and its outcome is accepted. -/
theorem lease_kept_up {earlier actions : List AppAction} {due : Timestamp} {outcome : ScanOutcome}
    {now : Timestamp} (hearlier : Machine.run (appStep b) {} earlier = some db)
    (hleased : db.LeasedTo workerId taskId due) (hkept : KeptUp workerId taskId due actions)
    (hrun : Machine.run (appStep b) db actions = some db')
    (hnow : now < dueAfterAll workerId taskId due actions)
    (hown : ∀ t ∈ db'.scanTasks, t.id = taskId → t.deviceId = outcome.deviceId)
    (wall : Timestamp) :
    db'.LeasedTo workerId taskId (dueAfterAll workerId taskId due actions) ∧ ∃ success db'',
      persistOutcome workerId taskId outcome now wall db' = .ok (success, db'') := by
  obtain ⟨⟨hstart, hstartSeated⟩, -⟩ := run_answered .empty seated_empty hearlier
  obtain ⟨hsound, hseated, hstill⟩ := hleased.run hstart hstartSeated hkept hrun
  exact ⟨hstill, persistOutcome_of_leasedTo hsound hseated hstill hnow hown wall⟩

def queuedAndClaimed : List AppAction :=
  [.request (.createDevice
      { name := "web-01", host := "10.0.0.10", osType := .linux, username := "root",
        password := "secret" }),
    .queue ⟨1000000, 1, .enqueueDevice 10 1 .manual 0 none⟩,
    .queue ⟨2000000, 2, .claimScanTasks "w" 1 5 60⟩]

/-- Another worker asks for tasks before and after the first lease would have been over. -/
def renewedOnce : List AppAction :=
  [.queue ⟨40000000, 3, .claimScanTasks "v" 1 5 60⟩,
    .queue ⟨50000000, 3, .renewScanLeases "w" [1] 60⟩,
    .queue ⟨100000000, 4, .claimScanTasks "v" 1 5 60⟩,
    .request (.deleteDevice 1 5)]

theorem renewedOnce_keeps_lease :
    ∃ db db', Machine.run (appStep plainBackend) {} queuedAndClaimed = some db ∧
      Machine.run (appStep plainBackend) db renewedOnce = some db' ∧
      db'.LeasedTo "w" 1 110000000 ∧ ∃ success db'', persistOutcome "w" 1
        ⟨1, .manual, .success, 2, 3, [], none, none, none⟩ 105000000 105 db' =
          .ok (success, db'') := by
  have hfirst : ((Machine.run (appStep plainBackend) {} queuedAndClaimed).any fun db =>
      db.LeasedTo "w" 1 62000000) = true := by decide +kernel
  have hboth : ((Machine.run (appStep plainBackend) {} (queuedAndClaimed ++ renewedOnce)).any
      fun db' => ∀ t ∈ db'.scanTasks, t.id = 1 → t.deviceId = 1) = true := by decide +kernel
  obtain ⟨db, hearlier, hholds⟩ := (Option.any_eq_true _ _).mp hfirst
  have hleased : db.LeasedTo "w" 1 62000000 := of_decide_eq_true hholds
  rw [Machine.run_append, hearlier, Option.bind_some] at hboth
  obtain ⟨db', hrun, hown⟩ := (Option.any_eq_true _ _).mp hboth
  have hkept : KeptUp "w" 1 62000000 renewedOnce := by decide
  have hdue : dueAfterAll "w" 1 62000000 renewedOnce = 110000000 := by decide
  refine ⟨db, db', hearlier, hrun, ?_⟩
  rw [← hdue]
  exact lease_kept_up hearlier hleased hkept hrun (by decide) (of_decide_eq_true hown) 105

end ConnectionTopology
