import ConnectionTopology.Imports.FirstScan
import ConnectionTopology.ScanQueue.DispatchLoop

/-!
# The import test service and its worker pool

`start`, `shutdown`, `_dispatch_loop`, `_future_done` and `_heartbeat_loop` of `ImportTestService`
with an executor of its own, around the executions of `test_row` in its process. An execution
takes steps only while a worker runs it. What other processes and requests do to the database in
between is any change at all.
-/
namespace ConnectionTopology

/-- The exceptions that `_dispatch_loop` and `_heartbeat_loop` catch. -/
def ServiceError.isCaught : ServiceError → Bool
  | .databaseUnavailable | .transactionConflict => true
  | .other => false

structure ImportTestSettings extends TestSettings where
  workerId : String
  maxWorkers : ℕ
  deriving DecidableEq, Repr

def ImportTestSettings.pool (c : ImportTestSettings) : WorkerPool.Settings ServiceError where
  maxWorkers := c.maxWorkers
  claimCaught := ServiceError.isCaught
  renewCaught := ServiceError.isCaught

/-- Where `_heartbeat_loop` stands. -/
inductive TestHeartbeat
  | waiting
  /-- Before the copy of `_active_ids`. -/
  | reading
  | renewing (rowIds : List ℕ)
  /-- Before the lost rows are moved from `_active_ids` to `_lost_ids`. -/
  | marking (lost : List ℕ)
  deriving DecidableEq, Repr

/-- The threads of `tests` are the executions of the pool's jobs. -/
structure ImportTestService where
  tests : TestState
  pool : WorkerPool.State ℕ := {}
  activeIds : List ℕ := []
  lostIds : List ℕ := []
  heartbeat : TestHeartbeat := .waiting
  /-- The executions that have found their row not lost. -/
  passed : List ℕ := []
  /-- The executions that `DatabaseUnavailable` or `TransactionConflict` has ended. -/
  aborted : List ℕ := []
  /-- What `_claim` has returned so far. -/
  claimed : List ℕ := []
  deriving DecidableEq, Repr

inductive ImportServiceAction
  | pool (a : WorkerPool.Action ℕ ServiceError)
  | claim (now wall : Timestamp)
  /-- `executor.submit(self.test_row, row_id)`. -/
  | submit
  /-- A worker enters `test_row`, whose row becomes active. -/
  | begin (n : ℕ)
  | execute (a : TestAction)
  /-- The look at `_lost_ids` after the connection test. -/
  | check (n : ℕ)
  | abort (n : ℕ)
  /-- The `finally` clause, which ends the execution. -/
  | finish (n : ℕ)
  | tick
  | readActive
  | renew (now : Timestamp)
  | renewRaises (error : ServiceError)
  | markLost
  /-- Anyone else has written. -/
  | environment (db : Database)
  deriving DecidableEq, Repr

/-- The execution that takes the step, without those that begin, end or check one. -/
def TestAction.execution? : TestAction → Option ℕ
  | .load n _ _ _ | .save n _ _ | .callback n _ | .raise n | .claimFailed n _ _
  | .saveFailed n _ _ _ => some n
  | _ => none

/-- The result is saved by an execution whose row was not lost. -/
def TestAction.mayStep (passed : List ℕ) : TestAction → Bool
  | .save n _ _ => n ∈ passed
  | _ => true

def ImportTestService.movePool (c : ImportTestSettings) (s : ImportTestService)
    (a : WorkerPool.Action ℕ ServiceError) : Option ImportTestService :=
  (s.pool.step c.pool a).map fun pool => { s with pool }

def ImportTestService.moveTests (c : ImportTestSettings) (s : ImportTestService) (a : TestAction) :
    Option ImportTestService :=
  (s.tests.step c.toTestSettings a).map fun tests => { s with tests }

/-- A worker is executing `test_row` there. -/
def ImportTestService.isRunning (s : ImportTestService) (n : ℕ) : Bool :=
  s.pool.jobs[n]?.any (·.stage = .running) && n ∉ s.aborted

/-- The steps of the pool that the service takes no part in. -/
def ImportTestService.isPoolStep : WorkerPool.Action ℕ ServiceError → Bool
  | .claim _ | .submit | .begin _ | .finish _ | .tick | .renew | .renewRaises _ => false
  | _ => true

def ImportTestService.step (c : ImportTestSettings) (s : ImportTestService) :
    ImportServiceAction → Option ImportTestService
  | .pool a => if isPoolStep a then s.movePool c a else none
  | .claim now wall =>
    match s.pool.dispatcher with
    | .claiming capacity =>
      let reply :=
        claimImportTests c.workerId capacity c.globalLimit c.leaseSeconds now wall s.tests.db
      (s.movePool c (.claim reply.1)).map fun t =>
        { t with tests := { s.tests with db := reply.2 }, claimed := s.claimed ++ reply.1 }
    | _ => none
  | .submit =>
    match s.pool.dispatcher with
    | .submitting (rowId :: _) =>
      (s.movePool c .submit).map fun t =>
        { t with tests := { s.tests with
            threads := s.tests.threads ++ [{ workerId := c.workerId, rowId }] } }
    | _ => none
  | .begin n =>
    match s.tests.threads[n]? with
    | some thread =>
      (s.movePool c (.begin n)).map fun t =>
        { t with activeIds := s.activeIds.insert thread.rowId }
    | none => none
  | .execute a =>
    if a.execution?.any s.isRunning && a.mayStep s.passed then s.moveTests c a else none
  | .check n =>
    match s.tests.threads[n]? with
    | some ⟨_, rowId, .save _⟩ =>
      if s.isRunning n then
        if rowId ∈ s.lostIds then s.moveTests c (.lose n)
        else some { s with passed := n :: s.passed }
      else none
    | _ => none
  | .abort n =>
    match s.tests.threads[n]? with
    | some ⟨_, _, .load⟩ | some ⟨_, _, .save _⟩ | some ⟨_, _, .callback _⟩ =>
      if s.isRunning n then some { s with aborted := n :: s.aborted } else none
    | _ => none
  | .finish n =>
    match s.tests.threads[n]? with
    | some thread =>
      if thread.point = .done ∨ n ∈ s.aborted then
        (s.movePool c (.finish n)).map fun t => { t with
          activeIds := s.activeIds.filter (· ≠ thread.rowId)
          lostIds := s.lostIds.filter (· ≠ thread.rowId) }
      else none
    | none => none
  | .tick =>
    (s.movePool c .tick).map fun t =>
      if t.pool.heartbeat = .renewing then { t with heartbeat := .reading } else t
  | .readActive =>
    match s.heartbeat with
    | .reading =>
      if s.activeIds = [] then (s.movePool c .renew).map fun t => { t with heartbeat := .waiting }
      else some { s with heartbeat := .renewing s.activeIds }
    | _ => none
  | .renew now =>
    match s.heartbeat with
    | .renewing rowIds =>
      let reply := renewImportTestLeases c.workerId rowIds c.leaseSeconds now s.tests.db
      let t := { s with tests := { s.tests with db := reply.2 } }
      if reply.1 = [] then (t.movePool c .renew).map fun t => { t with heartbeat := .waiting }
      else some { t with heartbeat := .marking reply.1 }
    | _ => none
  | .renewRaises error =>
    match s.heartbeat with
    | .renewing _ =>
      (s.movePool c (.renewRaises error)).map fun t => { t with heartbeat := .waiting }
    | _ => none
  | .markLost =>
    match s.heartbeat with
    | .marking lost =>
      (s.movePool c .renew).map fun t => { t with
        heartbeat := .waiting
        activeIds := s.activeIds.filter (· ∉ lost)
        lostIds := s.lostIds ∪ lost }
    | _ => none
  | .environment db => some { s with tests := { s.tests with db } }

/-! ## What one action does -/

/-- The execution is queued or has something left to do before its `finally` clause. -/
def ImportTestService.isUnfinished (s : ImportTestService) (n : ℕ) : Bool :=
  s.tests.threads[n]?.any (·.point ≠ .done) && n ∉ s.aborted

variable {c : ImportTestSettings} {s t : ImportTestService}

theorem ImportTestService.movePool_eq_some {a : WorkerPool.Action ℕ ServiceError} :
    s.movePool c a = some t ↔ ∃ pool, s.pool.step c.pool a = some pool ∧ { s with pool } = t :=
  Option.map_eq_some_iff

theorem ImportTestService.map_movePool_eq_some {a : WorkerPool.Action ℕ ServiceError}
    {f : ImportTestService → ImportTestService} :
    (s.movePool c a).map f = some t ↔
      ∃ pool, s.pool.step c.pool a = some pool ∧ f { s with pool } = t := by
  rw [ImportTestService.movePool, Option.map_map, Option.map_eq_some_iff]
  rfl

/-- One execution moves, and it tests the same row. -/
theorem TestState.step_thread {settings : TestSettings} {tests tests' : TestState} {a : TestAction}
    {n : ℕ} (ha : a.execution? = some n ∨ a = .lose n)
    (hstep : tests.step settings a = some tests') :
    ∃ thread point, tests.threads[n]? = some thread ∧
      tests'.threads = tests.threads.set n { thread with point := point } := by
  have hmoves : ∀ (state : TestState) (thread : TestThread) (point : TestPoint),
      some (state.moveTo n thread point) = some tests' → tests.threads[n]? = some thread →
      state.threads = tests.threads → ∃ thread point, tests.threads[n]? = some thread ∧
        tests'.threads = tests.threads.set n { thread with point := point } := by
    rintro state thread point ⟨⟩ hthread hsame
    exact ⟨thread, point, hthread, by rw [TestState.moveTo, hsame]⟩
  rcases ha with ha | rfl
  · cases a <;> cases ha
    all_goals
      simp only [TestState.step] at hstep
      repeat' split at hstep
    all_goals first
      | cases hstep; done
      | exact hmoves _ _ _ hstep ‹_› rfl
  · simp only [TestState.step] at hstep
    repeat' split at hstep
    all_goals first
      | cases hstep; done
      | exact hmoves _ _ _ hstep ‹_› rfl

theorem length_claimImportTests_le (workerId : String) (localCapacity globalLimit : ℤ)
    (leaseSeconds : ℕ) (now wall : Timestamp) (db : Database) :
    ((claimImportTests workerId localCapacity globalLimit leaseSeconds now wall db).1.length : ℤ) ≤
      max localCapacity 0 := by
  unfold claimImportTests
  split_ifs with hnone
  · simp
  · dsimp only
    rw [List.length_map]
    split_ifs
    · rw [List.length_take]
      omega
    · simp

/-- The action moves the pool by `p`, which is neither a claim nor a submission. -/
structure ImportTestService.PoolMove (c : ImportTestSettings) (s t : ImportTestService)
    (a : ImportServiceAction) (p : WorkerPool.Action ℕ ServiceError) : Prop where
  step : s.pool.step c.pool p = some t.pool
  threads : t.tests.threads = s.tests.threads
  aborted : t.aborted = s.aborted
  claimed : t.claimed = s.claimed
  claims : ∀ items, p ≠ .claim items
  submits : p ≠ .submit
  begins : ∀ n, p = .begin n → a = .begin n
  finishes : ∀ n, p = .finish n → a = .finish n ∧ s.isUnfinished n = false
  claimErrors : ∀ error, p = .claimRaises error → a = .pool (.claimRaises error)
  renewErrors : ∀ error, p = .renewRaises error → a = .renewRaises error

theorem ImportTestService.step_cases {a : ImportServiceAction} (hstep : s.step c a = some t) :
    (∃ p, s.PoolMove c t a p) ∨
    (∃ capacity rowIds, s.pool.dispatcher = .claiming capacity ∧
      (rowIds.length : ℤ) ≤ max capacity 0 ∧ s.pool.step c.pool (.claim rowIds) = some t.pool ∧
      (t.tests.threads = s.tests.threads ∧ t.aborted = s.aborted) ∧
      t.claimed = s.claimed ++ rowIds) ∨
    (∃ rowId rest, s.pool.dispatcher = .submitting (rowId :: rest) ∧
      s.pool.step c.pool .submit = some t.pool ∧
      t.tests.threads = s.tests.threads ++ [{ workerId := c.workerId, rowId }] ∧
      t.aborted = s.aborted ∧ t.claimed = s.claimed) ∨
    (∃ n thread point, s.isRunning n = true ∧ s.tests.threads[n]? = some thread ∧
      t.pool = s.pool ∧ t.tests.threads = s.tests.threads.set n { thread with point := point } ∧
      t.aborted = s.aborted ∧ t.claimed = s.claimed) ∨
    (t.pool = s.pool ∧ t.tests.threads = s.tests.threads ∧ s.aborted ⊆ t.aborted ∧
      t.claimed = s.claimed) := by
  cases a with
  | pool a =>
    left
    simp only [ImportTestService.step] at hstep
    split_ifs at hstep with ha
    obtain ⟨pool, hpool, rfl⟩ := ImportTestService.movePool_eq_some.mp hstep
    refine ⟨a, hpool, rfl, rfl, rfl, ?_, ?_, ?_, ?_, ?_, ?_⟩
    · rintro items rfl
      cases ha
    · rintro rfl
      cases ha
    · rintro n rfl
      cases ha
    · rintro n rfl
      cases ha
    · rintro error rfl
      rfl
    · rintro error rfl
      cases ha
  | claim now wall =>
    right
    left
    simp only [ImportTestService.step] at hstep
    split at hstep
    · rename_i capacity hroom
      obtain ⟨pool, hclaim, rfl⟩ := ImportTestService.map_movePool_eq_some.mp hstep
      exact ⟨capacity, _, hroom, length_claimImportTests_le .., hclaim, ⟨rfl, rfl⟩, rfl⟩
    · cases hstep
  | submit =>
    right
    right
    left
    simp only [ImportTestService.step] at hstep
    split at hstep
    · rename_i rowId rest hsubmitting
      obtain ⟨pool, hsubmit, rfl⟩ := ImportTestService.map_movePool_eq_some.mp hstep
      exact ⟨rowId, rest, hsubmitting, hsubmit, rfl, rfl, rfl⟩
    · cases hstep
  | begin n =>
    left
    simp only [ImportTestService.step] at hstep
    split at hstep
    · obtain ⟨pool, hpool, rfl⟩ := ImportTestService.map_movePool_eq_some.mp hstep
      refine ⟨.begin n, hpool, rfl, rfl, rfl, nofun, nofun, ?_, nofun, nofun, nofun⟩
      rintro m ⟨⟩
      rfl
    · cases hstep
  | execute a =>
    right
    right
    right
    left
    simp only [ImportTestService.step] at hstep
    split_ifs at hstep with hmay
    obtain ⟨n, hn, hrunning⟩ := (Option.any_eq_true _ _).mp (Bool.and_eq_true_iff.mp hmay).1
    obtain ⟨tests, htests, rfl⟩ := Option.map_eq_some_iff.mp hstep
    obtain ⟨thread, point, hthread, hthreads⟩ := TestState.step_thread (Or.inl hn) htests
    exact ⟨n, thread, point, hrunning, hthread, rfl, hthreads, rfl, rfl⟩
  | check n =>
    right
    right
    right
    simp only [ImportTestService.step] at hstep
    split at hstep
    · split_ifs at hstep with hrunning hlost
      · obtain ⟨tests, htests, rfl⟩ := Option.map_eq_some_iff.mp hstep
        obtain ⟨thread, point, hthread, hthreads⟩ := TestState.step_thread (Or.inr rfl) htests
        exact Or.inl ⟨n, thread, point, hrunning, hthread, rfl, hthreads, rfl, rfl⟩
      · cases hstep
        exact Or.inr ⟨rfl, rfl, List.Subset.refl _, rfl⟩
    · cases hstep
  | abort n =>
    right
    right
    right
    right
    have ht : some { s with aborted := n :: s.aborted } = some t → t.pool = s.pool ∧
        t.tests.threads = s.tests.threads ∧ s.aborted ⊆ t.aborted ∧ t.claimed = s.claimed := by
      rintro ⟨⟩
      exact ⟨rfl, rfl, List.subset_cons_self n s.aborted, rfl⟩
    simp only [ImportTestService.step] at hstep
    split at hstep
    all_goals first
      | cases hstep
      | split_ifs at hstep
        exact ht hstep
  | finish n =>
    left
    simp only [ImportTestService.step] at hstep
    split at hstep
    · rename_i thread hthread
      split_ifs at hstep with hover
      obtain ⟨pool, hpool, rfl⟩ := ImportTestService.map_movePool_eq_some.mp hstep
      refine ⟨.finish n, hpool, rfl, rfl, rfl, nofun, nofun, nofun, ?_, nofun, nofun⟩
      rintro m ⟨⟩
      refine ⟨rfl, ?_⟩
      simpa [ImportTestService.isUnfinished, hthread, or_iff_not_imp_left] using hover
    · cases hstep
  | tick =>
    left
    simp only [ImportTestService.step] at hstep
    obtain ⟨pool, hpool, rfl⟩ := ImportTestService.map_movePool_eq_some.mp hstep
    refine ⟨.tick, ?_, ?_, ?_, ?_, nofun, nofun, nofun, nofun, nofun, nofun⟩
    · split_ifs <;> exact hpool
    all_goals split_ifs <;> rfl
  | readActive =>
    simp only [ImportTestService.step] at hstep
    split at hstep
    · split_ifs at hstep
      · left
        obtain ⟨pool, hpool, rfl⟩ := ImportTestService.map_movePool_eq_some.mp hstep
        exact ⟨.renew, hpool, rfl, rfl, rfl, nofun, nofun, nofun, nofun, nofun, nofun⟩
      · right
        right
        right
        right
        cases hstep
        exact ⟨rfl, rfl, List.Subset.refl _, rfl⟩
    · cases hstep
  | renew now =>
    simp only [ImportTestService.step] at hstep
    split at hstep
    · split_ifs at hstep
      · left
        obtain ⟨pool, hpool, rfl⟩ := ImportTestService.map_movePool_eq_some.mp hstep
        exact ⟨.renew, hpool, rfl, rfl, rfl, nofun, nofun, nofun, nofun, nofun, nofun⟩
      · right
        right
        right
        right
        cases hstep
        exact ⟨rfl, rfl, List.Subset.refl _, rfl⟩
    · cases hstep
  | renewRaises error =>
    left
    simp only [ImportTestService.step] at hstep
    split at hstep
    · obtain ⟨pool, hpool, rfl⟩ := ImportTestService.map_movePool_eq_some.mp hstep
      refine ⟨.renewRaises error, hpool, rfl, rfl, rfl, nofun, nofun, nofun, nofun, nofun, ?_⟩
      rintro raised ⟨⟩
      rfl
    · cases hstep
  | markLost =>
    left
    simp only [ImportTestService.step] at hstep
    split at hstep
    · obtain ⟨pool, hpool, rfl⟩ := ImportTestService.map_movePool_eq_some.mp hstep
      exact ⟨.renew, hpool, rfl, rfl, rfl, nofun, nofun, nofun, nofun, nofun, nofun⟩
    · cases hstep
  | environment db =>
    right
    right
    right
    right
    cases hstep
    exact ⟨rfl, rfl, List.Subset.refl _, rfl⟩

/-! ## Executions and jobs -/

structure TestServiceInv (c : ImportTestSettings) (s : ImportTestService) : Prop where
  pool : WorkerPool.Inv c.pool s.pool
  jobs : s.pool.jobs.map (·.item) = s.tests.threads.map (·.rowId)
  claimed : s.claimed = s.tests.threads.map (·.rowId) ++ s.pool.dispatcher.items
  finished : ∀ (n : ℕ) (job : WorkerPool.Job ℕ), s.pool.jobs[n]? = some job → job.isDone = true →
    s.isUnfinished n = false

theorem TestServiceInv.initial (db : Database) : TestServiceInv c { tests := { db } } where
  pool := WorkerPool.Inv.initial
  jobs := rfl
  claimed := rfl
  finished := by simp

theorem TestServiceInv.ofPool (h : TestServiceInv c s) {a : ImportServiceAction}
    {p : WorkerPool.Action ℕ ServiceError} (hmove : s.PoolMove c t a p) : TestServiceInv c t := by
  obtain ⟨hitems, hjobs, hdone⟩ := h.pool.sameItems hmove.claims hmove.submits hmove.step
  constructor
  · refine h.pool.step ?_ hmove.step
    cases p with
    | claim items => exact absurd rfl (hmove.claims items)
    | _ => trivial
  · rw [hjobs, h.jobs, hmove.threads]
  · rw [hmove.claimed, h.claimed, hmove.threads, hitems]
  · intro n job hjob hover
    unfold ImportTestService.isUnfinished
    rw [hmove.threads, hmove.aborted]
    rcases hdone n job hjob hover with hp | ⟨before, hbefore, hover'⟩
    · exact (hmove.finishes n hp).2
    · exact h.finished n before hbefore hover'

/-- No execution moves, though an exception may end one. -/
theorem TestServiceInv.ofStill (h : TestServiceInv c s) (hpool : t.pool = s.pool)
    (hthreads : t.tests.threads = s.tests.threads) (haborted : s.aborted ⊆ t.aborted)
    (hclaimed : t.claimed = s.claimed) : TestServiceInv c t := by
  constructor
  · rw [hpool]
    exact h.pool
  · rw [hpool, hthreads]
    exact h.jobs
  · rw [hpool, hthreads, hclaimed]
    exact h.claimed
  · intro n job hjob hdone
    rw [hpool] at hjob
    have hbefore := h.finished n job hjob hdone
    simp only [ImportTestService.isUnfinished, Bool.and_eq_false_iff, decide_eq_false_iff_not,
      not_not] at hbefore ⊢
    rw [hthreads]
    exact hbefore.imp_right fun hmem => haborted hmem

/-- A step of an execution that a worker runs. -/
theorem TestServiceInv.ofThread (h : TestServiceInv c s) {n : ℕ} (hrunning : s.isRunning n = true)
    {thread : TestThread} {point : TestPoint} (hthread : s.tests.threads[n]? = some thread)
    (hpool : t.pool = s.pool)
    (hthreads : t.tests.threads = s.tests.threads.set n { thread with point := point })
    (haborted : t.aborted = s.aborted) (hclaimed : t.claimed = s.claimed) : TestServiceInv c t := by
  have hrows : t.tests.threads.map (·.rowId) = s.tests.threads.map (·.rowId) := by
    rw [hthreads, List.map_set]
    exact Machine.set_of_getElem? (by rw [List.getElem?_map, hthread]; rfl)
  constructor
  · rw [hpool]
    exact h.pool
  · rw [hpool, h.jobs, hrows]
  · rw [hclaimed, h.claimed, hrows, hpool]
  · intro m job hjob hdone
    rw [hpool] at hjob
    have hne : n ≠ m := by
      rintro rfl
      simp only [ImportTestService.isRunning, hjob, Option.any_some, Bool.and_eq_true,
        decide_eq_true_eq] at hrunning
      simp [WorkerPool.Job.isDone, hrunning.1] at hdone
    have hbefore := h.finished m job hjob hdone
    unfold ImportTestService.isUnfinished at hbefore ⊢
    rw [hthreads, haborted, List.getElem?_set_ne hne]
    exact hbefore

/-- `_claim` with the room that `_dispatch_loop` has counted. -/
theorem TestServiceInv.claim (h : TestServiceInv c s) {capacity : ℤ} {rowIds : List ℕ}
    (hroom : s.pool.dispatcher = .claiming capacity)
    (hlength : (rowIds.length : ℤ) ≤ max capacity 0)
    (hstep : s.pool.step c.pool (.claim rowIds) = some t.pool)
    (hthreads : t.tests.threads = s.tests.threads) (haborted : t.aborted = s.aborted)
    (hclaimed : t.claimed = s.claimed ++ rowIds) : TestServiceInv c t := by
  have hpool := hstep
  simp only [WorkerPool.State.step, WorkerPool.State.dispatcherStep, hroom,
    Option.some.injEq] at hpool
  constructor
  · refine h.pool.step ?_ hstep
    intro room hp
    rw [hroom] at hp
    cases hp
    exact hlength
  · rw [← hpool, hthreads]
    exact h.jobs
  · rw [hclaimed, h.claimed, hthreads, ← hpool, WorkerPool.items_afterClaim, hroom]
    simp [WorkerPool.DispatcherPoint.items]
  · intro n job hjob hdone
    rw [← hpool] at hjob
    unfold ImportTestService.isUnfinished
    rw [hthreads, haborted]
    exact h.finished n job hjob hdone

theorem TestServiceInv.submit (h : TestServiceInv c s) {rowId : ℕ} {rest : List ℕ}
    (hsubmitting : s.pool.dispatcher = .submitting (rowId :: rest))
    (hstep : s.pool.step c.pool .submit = some t.pool)
    (hthreads : t.tests.threads = s.tests.threads ++ [{ workerId := c.workerId, rowId }])
    (haborted : t.aborted = s.aborted) (hclaimed : t.claimed = s.claimed) : TestServiceInv c t := by
  have hpool := hstep
  simp only [WorkerPool.State.step, WorkerPool.State.dispatcherStep, hsubmitting,
    Option.some.injEq] at hpool
  have haligned : s.pool.jobs.length = s.tests.threads.length := by
    simpa using congrArg List.length h.jobs
  constructor
  · exact h.pool.step (a := .submit) trivial hstep
  · rw [← hpool, hthreads]
    simp [h.jobs]
  · rw [hclaimed, h.claimed, hthreads, ← hpool, hsubmitting]
    simp [WorkerPool.DispatcherPoint.items]
  · intro n job hjob hdone
    rw [← hpool] at hjob
    rcases Machine.getElem?_append_cases hjob with hjob | ⟨-, rfl⟩
    · have hlt := (List.getElem?_eq_some_iff.mp hjob).1
      have hbefore := h.finished n job hjob hdone
      unfold ImportTestService.isUnfinished at hbefore ⊢
      rw [hthreads, haborted, List.getElem?_append_left (haligned ▸ hlt)]
      exact hbefore
    · cases hdone

/-- One action moves no more than the pool and its own execution. -/
theorem TestServiceInv.step (h : TestServiceInv c s) {a : ImportServiceAction}
    (hstep : s.step c a = some t) : TestServiceInv c t := by
  rcases ImportTestService.step_cases hstep with ⟨p, hmove⟩ |
    ⟨capacity, rowIds, hroom, hlength, hclaim, hsame, hclaimed⟩ |
    ⟨rowId, rest, hsubmitting, hsubmit, hthreads, haborted, hclaimed⟩ |
    ⟨n, thread, point, hrunning, hthread, hpool, hthreads, haborted, hclaimed⟩ |
    ⟨hpool, hthreads, haborted, hclaimed⟩
  · exact h.ofPool hmove
  · exact h.claim hroom hlength hclaim hsame.1 hsame.2 hclaimed
  · exact h.submit hsubmitting hsubmit hthreads haborted hclaimed
  · exact h.ofThread hrunning hthread hpool hthreads haborted hclaimed
  · exact h.ofStill hpool hthreads haborted hclaimed

theorem TestServiceInv.run {db : Database} {actions : List ImportServiceAction}
    (hrun : Machine.run (ImportTestService.step c) { tests := { db } } actions = some s) :
    TestServiceInv c s :=
  Machine.run_invariant (TestServiceInv c) (fun _ _ _ hs hstep => hs.step hstep)
    (TestServiceInv.initial db) hrun

/-! ## What the service takes on -/

def ImportTestService.unfinished (s : ImportTestService) : List ℕ :=
  (List.range s.tests.threads.length).filter s.isUnfinished

/-- An execution that has not finished keeps its job from being over. -/
theorem TestServiceInv.unfinished_le (h : TestServiceInv c s) :
    s.unfinished.length ≤ s.pool.jobs.countP fun job => !job.isOver := by
  have haligned : s.pool.jobs.length = s.tests.threads.length := by
    simpa using congrArg List.length h.jobs
  rw [← WorkerPool.length_places, ImportTestService.unfinished, haligned]
  apply List.Sublist.length_le
  apply List.monotone_filter_right
  intro n hn
  obtain ⟨thread, hthread, -⟩ := (Option.any_eq_true _ _).mp (Bool.and_eq_true_iff.mp hn).1
  have hlt : n < s.pool.jobs.length := haligned ▸ (List.getElem?_eq_some_iff.mp hthread).1
  refine (Option.any_eq_true _ _).mpr ⟨s.pool.jobs[n], List.getElem?_eq_getElem hlt, ?_⟩
  by_contra hover
  rw [Bool.not_eq_true, Bool.not_eq_false'] at hover
  have hdone : s.pool.jobs[n].isDone = true := by
    rw [WorkerPool.Job.isOver, decide_eq_true_eq] at hover
    simp [WorkerPool.Job.isDone, hover]
  have hfinished := h.finished n _ (List.getElem?_eq_getElem hlt) hdone
  exact absurd (hn.symm.trans hfinished) (by decide)

/-- Every claimed row is tested or about to be submitted, no more of them are unfinished than
there are workers, and until the last of them has finished only an error ends the heartbeat. -/
structure ImportTestService.Supplied (c : ImportTestSettings) (s : ImportTestService) : Prop where
  claimed : s.claimed = s.tests.threads.map (·.rowId) ++ s.pool.dispatcher.items
  capacity : s.unfinished.length + s.pool.dispatcher.items.length ≤ c.maxWorkers
  room : ∀ capacity, s.pool.dispatcher = .claiming capacity → 0 ≤ capacity ∧ capacity ≤ c.maxWorkers
  beats : s.unfinished ≠ [] ∨ s.pool.dispatcher.items ≠ [] →
    s.pool.heartbeat = .waiting ∨ s.pool.heartbeat = .renewing ∨ s.pool.heartbeat = .died
  drained : s.pool.control = .stopped →
    s.unfinished = [] ∧ s.pool.dispatcher.items = [] ∧ s.pool.futures = []

theorem TestServiceInv.supplied (h : TestServiceInv c s) : s.Supplied c := by
  have hunfinished := h.unfinished_le
  constructor
  · exact h.claimed
  · exact (Nat.add_le_add_right hunfinished _).trans h.pool.pool.unfinished_le
  · exact fun capacity hclaiming => h.pool.pool.room_bounds hclaiming
  · intro hwork
    refine h.pool.beats (hwork.imp_left fun hsome => ?_)
    have hpos : 0 < s.unfinished.length := List.length_pos_iff.mpr hsome
    obtain ⟨job, hjob, hover⟩ := List.countP_pos_iff.mp (hpos.trans_le hunfinished)
    exact ⟨job, hjob, by simpa using hover⟩
  · intro hstopped
    obtain ⟨hover, hitems, hfutures⟩ := h.pool.drained hstopped
    refine ⟨?_, hitems, hfutures⟩
    have hnone : s.pool.jobs.countP (fun job => !job.isOver) = 0 := by
      rw [List.countP_eq_zero]
      intro job hjob
      simp [hover job hjob]
    rw [hnone, Nat.le_zero] at hunfinished
    exact List.eq_nil_of_length_eq_zero hunfinished

/-- In every run of the service, over every order of the steps of its threads, of what others do to
the database and of calls of `start` and `shutdown`. -/
theorem import_tests_supplied {db : Database} {actions : List ImportServiceAction}
    (hrun : Machine.run (ImportTestService.step c) { tests := { db } } actions = some s) :
    s.Supplied c :=
  (TestServiceInv.run hrun).supplied

def twoTesters : ImportTestSettings := { defaultTestSettings with workerId := "w", maxWorkers := 2 }

/-- Up to the first claim. -/
def startedTests : List ImportServiceAction :=
  [.pool .start, .pool .startDispatcher, .pool .check, .pool .measure]

/-- From a claim to the test of the first row it returns. -/
def firstTest : List ImportServiceAction :=
  [.claim 0 0, .submit, .pool .count, .pool .register, .begin 0]

theorem import_tests_supplied_once :
    ∃ s, Machine.run (ImportTestService.step twoTesters) { tests := { db := testingDatabase } }
        (startedTests ++ firstTest ++
          [.execute (.load 0 ⟨true, "连接测试成功"⟩ 0 0), .check 0]) = some s ∧
      (s.claimed = [1] ∧ s.unfinished = [0] ∧ s.passed = [0]) ∧ s.Supplied twoTesters := by
  have hrun : ((Machine.run (ImportTestService.step twoTesters)
      { tests := { db := testingDatabase } }
      (startedTests ++ firstTest ++ [.execute (.load 0 ⟨true, "连接测试成功"⟩ 0 0), .check 0])).any
        fun s => s.claimed = [1] ∧ s.unfinished = [0] ∧ s.passed = [0]) = true := by decide +kernel
  obtain ⟨s, hs, hstate⟩ := (Option.any_eq_true _ _).mp hrun
  exact ⟨s, hs, of_decide_eq_true hstate, import_tests_supplied hs⟩

/-! ## Errors of the database -/

theorem ServiceError.isCaught_of_ne {error : ServiceError} (h : error ≠ .other) :
    error.isCaught = true := by
  cases error with
  | other => exact absurd rfl h
  | _ => rfl

theorem ImportTestService.survives {a : ImportServiceAction} (hstep : s.step c a = some t) :
    (a ≠ .pool (.claimRaises .other) → s.pool.dispatcher ≠ .died → t.pool.dispatcher ≠ .died) ∧
      (a ≠ .renewRaises .other → s.pool.heartbeat ≠ .died → t.pool.heartbeat ≠ .died) := by
  have hpool : ∀ p : WorkerPool.Action ℕ ServiceError, s.pool.step c.pool p = some t.pool →
      (∀ error, p = .claimRaises error → a = .pool (.claimRaises error)) →
      (∀ error, p = .renewRaises error → a = .renewRaises error) →
      (a ≠ .pool (.claimRaises .other) → s.pool.dispatcher ≠ .died → t.pool.dispatcher ≠ .died) ∧
        (a ≠ .renewRaises .other → s.pool.heartbeat ≠ .died → t.pool.heartbeat ≠ .died) := by
    intro p hpool hclaims hrenews
    constructor
    · intro hcaught hup
      refine WorkerPool.State.dispatcher_survives hup (fun error hp => ?_) hpool
      exact ServiceError.isCaught_of_ne fun hother => hcaught (hother ▸ hclaims error hp)
    · intro hcaught hup
      refine WorkerPool.State.heartbeat_survives hup (fun error hp => ?_) hpool
      exact ServiceError.isCaught_of_ne fun hother => hcaught (hother ▸ hrenews error hp)
  rcases ImportTestService.step_cases hstep with ⟨p, hmove⟩ | ⟨_, rowIds, -, -, hclaim, -⟩ |
    ⟨_, _, -, hsubmit, -⟩ | ⟨_, _, _, -, -, hsame, -⟩ | ⟨hsame, -⟩
  · exact hpool p hmove.step hmove.claimErrors hmove.renewErrors
  · exact hpool _ hclaim nofun nofun
  · exact hpool _ hsubmit nofun nofun
  · rw [hsame]
    exact ⟨fun _ => id, fun _ => id⟩
  · rw [hsame]
    exact ⟨fun _ => id, fun _ => id⟩

/-- The dispatcher of a started service goes on after `DatabaseUnavailable` and
`TransactionConflict`, and so does the heartbeat. -/
theorem database_errors_are_survived {db : Database} {actions : List ImportServiceAction}
    (hrun : Machine.run (ImportTestService.step c) { tests := { db } } actions = some s) :
    (.pool (.claimRaises .other) ∉ actions → s.pool.control = .started →
      s.pool.dispatcher.isLive = true) ∧
    (.renewRaises .other ∉ actions → s.unfinished ≠ [] ∨ s.pool.dispatcher.items ≠ [] →
      s.pool.heartbeat = .waiting ∨ s.pool.heartbeat = .renewing) := by
  have h := TestServiceInv.run hrun
  have hstart : ({ tests := { db } } : ImportTestService).pool.dispatcher ≠ .died ∧
      ({ tests := { db } } : ImportTestService).pool.heartbeat ≠ .died := ⟨nofun, nofun⟩
  constructor
  · intro hcaught hstarted
    apply h.pool.isLive _ hstarted
    exact Machine.run_invariant_of_meets (fun s => s.pool.dispatcher ≠ .died)
      (fun _ _ _ hup ha hstep => (ImportTestService.survives hstep).1 ha hup) actions _ s hstart.1
      (Machine.meets_of_forall (fun a ha => ne_of_mem_of_not_mem ha hcaught) _) hrun
  · intro hcaught hwork
    have hup : s.pool.heartbeat ≠ .died :=
      Machine.run_invariant_of_meets (fun s => s.pool.heartbeat ≠ .died)
        (fun _ _ _ hup ha hstep => (ImportTestService.survives hstep).2 ha hup) actions _ s hstart.2
        (Machine.meets_of_forall (fun a ha => ne_of_mem_of_not_mem ha hcaught) _) hrun
    rcases h.supplied.beats hwork with hwaiting | hrenewing | hdied
    · exact Or.inl hwaiting
    · exact Or.inr hrenewing
    · exact absurd hdied hup

/-- A claim and a renewal fail, and the claim is made again. -/
def failingTests : List ImportServiceAction :=
  startedTests ++ [.pool (.claimRaises .databaseUnavailable), .pool .rest, .pool .check,
    .pool .measure] ++ firstTest ++ [.tick, .readActive, .renewRaises .transactionConflict]

theorem failing_tests_are_survived :
    ∃ s, Machine.run (ImportTestService.step twoTesters) { tests := { db := testingDatabase } }
        failingTests = some s ∧
      s.pool.dispatcher.isLive = true ∧
      (s.pool.heartbeat = .waiting ∨ s.pool.heartbeat = .renewing) := by
  have hrun : ((Machine.run (ImportTestService.step twoTesters)
      { tests := { db := testingDatabase } }
      failingTests).any fun s => s.pool.control = .started ∧ s.unfinished = [0]) = true := by
    decide +kernel
  obtain ⟨s, hs, hstate⟩ := (Option.any_eq_true _ _).mp hrun
  obtain ⟨hstarted, hunfinished⟩ := of_decide_eq_true hstate
  obtain ⟨hlive, hbeats⟩ := database_errors_are_survived hs
  have hwork : s.unfinished ≠ [] := by
    rw [hunfinished]
    exact List.cons_ne_nil 0 []
  exact ⟨s, hs, hlive (by decide) hstarted, hbeats (by decide) (Or.inl hwork)⟩

end ConnectionTopology
