import ConnectionTopology.Imports.TestDispatch

/-!
# Rows under test and their leases

`_active_ids` and `_lost_ids` are sets of rows, and a process that claims a row again while an
execution of it still runs has two executions of one row. The first of them to end clears the
marks of both.
-/
namespace ConnectionTopology

variable {c : ImportTestSettings} {s t : ImportTestService}

/-- Its lease is renewed, or the service knows that it has been lost. -/
def ImportTestService.Watches (s : ImportTestService) (rowId : ℕ) : Prop :=
  rowId ∈ s.activeIds ∨ rowId ∈ s.lostIds

/-- No row is under test whose lease is neither renewed nor known to be lost. -/
def ImportTestService.Watched (s : ImportTestService) : Prop :=
  ∀ rowId, 0 < s.pool.runs rowId → s.Watches rowId

/-- An execution ends while no other one of its row runs. -/
def ImportTestService.finishesAlone (s : ImportTestService) : ImportServiceAction → Bool
  | .finish n => s.tests.threads[n]?.all fun thread => s.pool.runs thread.rowId ≤ 1
  | _ => true

theorem ImportTestService.runs_step {a : ImportServiceAction} (hbegin : ∀ n, a ≠ .begin n)
    (hfinish : ∀ n, a ≠ .finish n) (hstep : s.step c a = some t) (rowId : ℕ) :
    t.pool.runs rowId = s.pool.runs rowId := by
  rcases ImportTestService.step_cases hstep with ⟨p, hmove⟩ | ⟨_, rowIds, -, -, hclaim, -⟩ |
    ⟨_, _, -, hsubmit, -⟩ | ⟨_, _, _, -, -, hsame, -⟩ | ⟨hsame, -⟩
  · exact WorkerPool.State.runs_step (fun n hp => hbegin n (hmove.begins n hp))
      (fun n hp => hfinish n (hmove.finishes n hp).1) hmove.step rowId
  · exact WorkerPool.State.runs_step (a := .claim rowIds) nofun nofun hclaim rowId
  · exact WorkerPool.State.runs_step (a := .submit) nofun nofun hsubmit rowId
  · rw [hsame]
  · rw [hsame]

theorem ImportTestService.step_begin {n : ℕ} (hstep : s.step c (.begin n) = some t) :
    ∃ thread, s.tests.threads[n]? = some thread ∧ s.pool.step c.pool (.begin n) = some t.pool ∧
      t.activeIds = s.activeIds.insert thread.rowId ∧ t.lostIds = s.lostIds := by
  simp only [ImportTestService.step] at hstep
  split at hstep
  · rename_i thread hthread
    obtain ⟨pool, hpool, rfl⟩ := ImportTestService.map_movePool_eq_some.mp hstep
    exact ⟨thread, hthread, hpool, rfl, rfl⟩
  · cases hstep

theorem ImportTestService.step_finish {n : ℕ} (hstep : s.step c (.finish n) = some t) :
    ∃ thread, s.tests.threads[n]? = some thread ∧ s.pool.step c.pool (.finish n) = some t.pool ∧
      t.activeIds = s.activeIds.filter (· ≠ thread.rowId) ∧
      t.lostIds = s.lostIds.filter (· ≠ thread.rowId) := by
  simp only [ImportTestService.step] at hstep
  split at hstep
  · rename_i thread hthread
    split_ifs at hstep
    obtain ⟨pool, hpool, rfl⟩ := ImportTestService.map_movePool_eq_some.mp hstep
    exact ⟨thread, hthread, hpool, rfl, rfl⟩
  · cases hstep

theorem ImportTestService.step_marks {a : ImportServiceAction} (hbegin : ∀ n, a ≠ .begin n)
    (hfinish : ∀ n, a ≠ .finish n) (hmark : a ≠ .markLost) (hstep : s.step c a = some t) :
    t.activeIds = s.activeIds ∧ t.lostIds = s.lostIds := by
  cases a with
  | begin n => exact absurd rfl (hbegin n)
  | finish n => exact absurd rfl (hfinish n)
  | markLost => exact absurd rfl hmark
  | _ =>
    simp only [ImportTestService.step, ImportTestService.movePool,
      ImportTestService.moveTests] at hstep
    repeat' split at hstep
    all_goals
      simp only [Option.map_map, Option.map_eq_some_iff, Option.some.injEq, reduceCtorEq,
        Function.comp_apply] at hstep
    all_goals
      obtain ⟨_, -, rfl⟩ := hstep
      first
      | exact ⟨rfl, rfl⟩
      | split <;> exact ⟨rfl, rfl⟩

/-- While executions only go on, active rows are at most moved to the lost ones. -/
theorem ImportTestService.step_watches {a : ImportServiceAction} (hbegin : ∀ n, a ≠ .begin n)
    (hfinish : ∀ n, a ≠ .finish n) (hstep : s.step c a = some t) :
    t.activeIds ⊆ s.activeIds ∧ ∀ rowId, s.Watches rowId → t.Watches rowId := by
  by_cases hmark : a = .markLost
  · subst hmark
    simp only [ImportTestService.step] at hstep
    split at hstep
    · rename_i lost _
      obtain ⟨u, hmove, rfl⟩ := Option.map_eq_some_iff.mp hstep
      refine ⟨fun _ hmem => (List.mem_filter.mp hmem).1, ?_⟩
      rintro rowId (hactive | hlost)
      · by_cases hmem : rowId ∈ lost
        · exact Or.inr (List.mem_union_iff.mpr (Or.inr hmem))
        · exact Or.inl (List.mem_filter.mpr ⟨hactive, by simpa using hmem⟩)
      · exact Or.inr (List.mem_union_iff.mpr (Or.inl hlost))
    · cases hstep
  · obtain ⟨hactive, hlost⟩ := ImportTestService.step_marks hbegin hfinish hmark hstep
    unfold ImportTestService.Watches
    rw [hactive, hlost]
    exact ⟨List.Subset.refl _, fun _ => id⟩

theorem TestServiceInv.item_eq (h : TestServiceInv c s) {n : ℕ} {job : WorkerPool.Job ℕ}
    {thread : TestThread} (hjob : s.pool.jobs[n]? = some job)
    (hthread : s.tests.threads[n]? = some thread) : job.item = thread.rowId := by
  have hrows := congrArg (·[n]?) h.jobs
  simpa [hjob, hthread] using hrows

/-- The heartbeat renews no lease but those of rows under test. -/
theorem TestServiceInv.active_runs_step (h : TestServiceInv c s)
    (hactive : ∀ rowId ∈ s.activeIds, 0 < s.pool.runs rowId) {a : ImportServiceAction}
    (hstep : s.step c a = some t) : ∀ rowId ∈ t.activeIds, 0 < t.pool.runs rowId := by
  intro rowId hrow
  by_cases hbegin : ∃ n, a = .begin n
  · obtain ⟨n, rfl⟩ := hbegin
    obtain ⟨thread, hthread, hpool, hactives, -⟩ := ImportTestService.step_begin hstep
    obtain ⟨job, hjob, hruns⟩ := WorkerPool.State.runs_begin hpool
    rw [hruns, h.item_eq hjob hthread]
    rw [hactives] at hrow
    rcases List.mem_insert_iff.mp hrow with rfl | hbefore
    · simp
    · exact Nat.add_pos_left (hactive rowId hbefore) _
  by_cases hfinish : ∃ n, a = .finish n
  · obtain ⟨n, rfl⟩ := hfinish
    obtain ⟨thread, hthread, hpool, hactives, -⟩ := ImportTestService.step_finish hstep
    obtain ⟨job, hjob, hruns⟩ := WorkerPool.State.runs_finish hpool
    rw [hactives, List.mem_filter] at hrow
    have hne : thread.rowId ≠ rowId := fun heq => absurd heq.symm (of_decide_eq_true hrow.2)
    have hcount := hruns rowId
    rw [h.item_eq hjob hthread, if_neg hne, Nat.add_zero] at hcount
    rw [hcount]
    exact hactive rowId hrow.1
  · rw [not_exists] at hbegin hfinish
    rw [ImportTestService.runs_step hbegin hfinish hstep]
    exact hactive rowId ((ImportTestService.step_watches hbegin hfinish hstep).1 hrow)

/-- The end of an execution is the end of all marks of its row. -/
theorem TestServiceInv.watched_step (h : TestServiceInv c s) (hwatched : s.Watched)
    {a : ImportServiceAction} (hstep : s.step c a = some t) :
    t.Watched ↔ s.finishesAlone a = true := by
  by_cases hbegin : ∃ n, a = .begin n
  · obtain ⟨n, rfl⟩ := hbegin
    obtain ⟨thread, hthread, hpool, hactives, hlost⟩ := ImportTestService.step_begin hstep
    obtain ⟨job, hjob, hruns⟩ := WorkerPool.State.runs_begin hpool
    refine ⟨fun _ => rfl, fun _ rowId hrow => ?_⟩
    rw [hruns, h.item_eq hjob hthread] at hrow
    unfold ImportTestService.Watches
    rw [hactives, hlost, List.mem_insert_iff]
    by_cases hsame : thread.rowId = rowId
    · exact Or.inl (Or.inl hsame.symm)
    · rw [if_neg hsame, Nat.add_zero] at hrow
      exact (hwatched rowId hrow).imp_left Or.inr
  by_cases hfinish : ∃ n, a = .finish n
  · obtain ⟨n, rfl⟩ := hfinish
    obtain ⟨thread, hthread, hpool, hactives, hlost⟩ := ImportTestService.step_finish hstep
    obtain ⟨job, hjob, hruns⟩ := WorkerPool.State.runs_finish hpool
    rw [h.item_eq hjob hthread] at hruns
    have halone : s.finishesAlone (.finish n) = true ↔ t.pool.runs thread.rowId = 0 := by
      have hcount := hruns thread.rowId
      rw [if_pos rfl] at hcount
      simp only [ImportTestService.finishesAlone, hthread, Option.all_some, decide_eq_true_eq]
      omega
    rw [halone]
    constructor
    · intro hafter
      by_contra hruns
      rcases hafter thread.rowId (Nat.pos_of_ne_zero hruns) with hactive | hlost'
      · simp [hactives] at hactive
      · simp [hlost] at hlost'
    · intro hnone rowId hrow
      have hne : rowId ≠ thread.rowId := by
        rintro rfl
        omega
      have hcount := hruns rowId
      rw [if_neg hne.symm, Nat.add_zero] at hcount
      unfold ImportTestService.Watches
      rw [hactives, hlost]
      exact (hwatched rowId (hcount ▸ hrow)).imp
        (fun hmem => List.mem_filter.mpr ⟨hmem, decide_eq_true hne⟩)
        fun hmem => List.mem_filter.mpr ⟨hmem, decide_eq_true hne⟩
  · rw [not_exists] at hbegin hfinish
    have halone : s.finishesAlone a = true := by
      cases a with
      | finish n => exact absurd rfl (hfinish n)
      | _ => rfl
    refine ⟨fun _ => halone, fun _ rowId hrow => ?_⟩
    rw [ImportTestService.runs_step hbegin hfinish hstep] at hrow
    exact (ImportTestService.step_watches hbegin hfinish hstep).2 rowId (hwatched rowId hrow)

/-- The rows under test keep their leases or are known to be lost for as long as no execution ends
beside another one of its row. -/
theorem rows_under_test_are_watched {db : Database} {actions : List ImportServiceAction}
    (hrun : Machine.run (ImportTestService.step c) { tests := { db } } actions = some s) :
    (∀ rowId ∈ s.activeIds, 0 < s.pool.runs rowId) ∧
    ((∀ done u, done <+: actions →
        Machine.run (ImportTestService.step c) { tests := { db } } done = some u → u.Watched) ↔
      Machine.Meets (ImportTestService.step c) (fun s a => s.finishesAlone a = true)
        { tests := { db } } actions) := by
  constructor
  · have hboth : TestServiceInv c s ∧ ∀ rowId ∈ s.activeIds, 0 < s.pool.runs rowId :=
      Machine.run_invariant
        (fun s => TestServiceInv c s ∧ ∀ rowId ∈ s.activeIds, 0 < s.pool.runs rowId)
        (fun _ _ _ hs hstep => ⟨hs.1.step hstep, hs.1.active_runs_step hs.2 hstep⟩)
        ⟨TestServiceInv.initial db, by simp⟩ hrun
    exact hboth.2
  · refine Machine.forall_prefix_iff_meets (TestServiceInv c) ImportTestService.Watched
      (fun _ _ _ hs hstep => hs.step hstep)
      (fun _ _ _ hs hwatched hstep => hs.watched_step hwatched hstep)
      (TestServiceInv.initial db) ?_ hrun
    intro rowId hrow
    cases hrow

theorem first_test_is_watched :
    ∃ s, Machine.run (ImportTestService.step twoTesters) { tests := { db := testingDatabase } }
        (startedTests ++ firstTest) = some s ∧ s.pool.runs 1 = 1 ∧ s.Watched := by
  have hrun : ((Machine.run (ImportTestService.step twoTesters)
      { tests := { db := testingDatabase } }
      (startedTests ++ firstTest)).any fun s => s.pool.runs 1 = 1) = true := by decide +kernel
  have hmeets : Machine.Meets (ImportTestService.step twoTesters)
      (fun s a => s.finishesAlone a = true) { tests := { db := testingDatabase } }
      (startedTests ++ firstTest) := by decide +kernel
  obtain ⟨s, hs, hruns⟩ := (Option.any_eq_true _ _).mp hrun
  obtain ⟨-, hwatched⟩ := rows_under_test_are_watched hs
  exact ⟨s, hs, of_decide_eq_true hruns, hwatched.mpr hmeets _ s (List.prefix_refl _) hs⟩

/-- The lease ends during a test and the process claims the row once more; then the first of the
two executions ends. -/
def reclaimedTest : List ImportServiceAction :=
  startedTests ++ firstTest ++
    [.execute (.load 0 ⟨true, "连接测试成功"⟩ 0 0), .pool .check, .pool .measure,
     .claim (90 * microsPerSecond) 0, .submit, .pool .count, .pool .register, .begin 1,
     .abort 0, .finish 0]

/-- From then on no heartbeat renews the lease of the second one. -/
theorem reclaimed_row_is_unwatched :
    ∃ s, Machine.run (ImportTestService.step twoTesters) { tests := { db := testingDatabase } }
        reclaimedTest = some s ∧ s.pool.runs 1 = 1 ∧ s.activeIds = [] ∧ s.lostIds = [] ∧
      s.tests.db.importRowResults.all (·.isHeldBy "w" (91 * microsPerSecond)) = true := by
  have hrun : ((Machine.run (ImportTestService.step twoTesters)
      { tests := { db := testingDatabase } }
      reclaimedTest).any fun s => s.pool.runs 1 = 1 ∧ s.activeIds = [] ∧ s.lostIds = [] ∧
        s.tests.db.importRowResults.all (·.isHeldBy "w" (91 * microsPerSecond)) = true) = true := by
    decide +kernel
  obtain ⟨s, hs, hstate⟩ := (Option.any_eq_true _ _).mp hrun
  exact ⟨s, hs, of_decide_eq_true hstate⟩

end ConnectionTopology
