import ConnectionTopology.Library.Machine

/-!
# A thread that feeds a pool of workers

A dispatcher counts the futures that are out, claims at most as many items as there is room for
and submits them one by one; the done callback of a future gives its room back. A future that is
already done when the callback is registered is called back by the dispatcher, any other by the
worker that ends its job. A controlling thread starts a heartbeat and the dispatcher and shuts
them down in the opposite order, with the pool drained in between.
-/
namespace ConnectionTopology.WorkerPool

inductive JobStage
  | queued
  | running
  /-- The future is done and the worker has yet to run the callback. -/
  | callingBack
  | over
  deriving DecidableEq, Repr

structure Job (ι : Type*) where
  item : ι
  stage : JobStage := .queued
  /-- The done callback was registered before the future was done. -/
  registered : Bool := false
  deriving DecidableEq, Repr

/-- A worker thread is busy with the job. -/
def Job.isBusy {ι : Type*} (job : Job ι) : Bool := job.stage = .running || job.stage = .callingBack

def Job.isOver {ι : Type*} (job : Job ι) : Bool := job.stage = .over

/-- The future is done. -/
def Job.isDone {ι : Type*} (job : Job ι) : Bool := job.stage = .callingBack || job.stage = .over

/-- Where the dispatcher stands in its loop. -/
inductive DispatcherPoint (ι : Type*)
  | absent
  | checking
  | measuring
  | claiming (room : ℤ)
  | submitting (items : List ι)
  /-- The job is in the pool, and its future is not among the futures yet. -/
  | counting (job : ℕ) (items : List ι)
  | registering (job : ℕ) (items : List ι)
  /-- The future was done already: the dispatcher runs the callback itself. -/
  | callingBack (job : ℕ) (items : List ι)
  | resting
  | ended
  | died
  deriving DecidableEq, Repr

inductive HeartbeatPoint
  | absent
  | waiting
  | renewing
  | ended
  | died
  deriving DecidableEq, Repr

/-- Where the controlling thread stands. -/
inductive ControlPoint
  | stopped
  /-- The heartbeat has been started. -/
  | starting
  | started
  | joiningDispatcher
  | drainingPool
  | joiningHeartbeat
  deriving DecidableEq, Repr

structure State (ι : Type*) where
  jobs : List (Job ι) := []
  /-- The futures that count, by the places of their jobs. -/
  futures : List ℕ := []
  dispatcher : DispatcherPoint ι := .absent
  heartbeat : HeartbeatPoint := .absent
  control : ControlPoint := .stopped
  stopEvent : Bool := false
  heartbeatStopEvent : Bool := false
  deriving DecidableEq, Repr

structure Settings (ε : Type*) where
  maxWorkers : ℕ
  /-- The dispatcher goes on after this error of a claim. -/
  claimCaught : ε → Bool
  /-- The heartbeat goes on after this error of a renewal. -/
  renewCaught : ε → Bool

inductive Action (ι ε : Type*)
  | start
  | startDispatcher
  | shutdown
  | joinDispatcher
  | joinPool
  | joinHeartbeat
  | check
  | measure
  | claim (items : List ι)
  | claimRaises (error : ε)
  | submit
  | count
  | register
  | callBack
  | rest
  | begin (job : ℕ)
  | finish (job : ℕ)
  | workerCallsBack (job : ℕ)
  | tick
  | renew
  | renewRaises (error : ε)
  deriving DecidableEq, Repr

variable {ι ε : Type*}

/-- Without an item the dispatcher waits to be woken. -/
def afterClaim : List ι → DispatcherPoint ι
  | [] => .resting
  | items => .submitting items

/-- The loop over the claimed items goes on, or the outer loop does. -/
def afterSubmit : List ι → DispatcherPoint ι
  | [] => .checking
  | items => .submitting items

def State.setJob (s : State ι) (n : ℕ) (job : Job ι) : State ι := { s with jobs := s.jobs.set n job }

@[simp] theorem State.setJob_jobs (s : State ι) (n : ℕ) (job : Job ι) :
    (s.setJob n job).jobs = s.jobs.set n job := rfl

@[simp] theorem State.setJob_futures (s : State ι) (n : ℕ) (job : Job ι) :
    (s.setJob n job).futures = s.futures := rfl

@[simp] theorem State.setJob_dispatcher (s : State ι) (n : ℕ) (job : Job ι) :
    (s.setJob n job).dispatcher = s.dispatcher := rfl

def DispatcherPoint.isDone : DispatcherPoint ι → Bool
  | .ended | .died => true
  | _ => false

def HeartbeatPoint.isDone : HeartbeatPoint → Bool
  | .ended | .died => true
  | _ => false

/-- One step of the controlling thread. -/
def State.controlStep (s : State ι) : Action ι ε → Option (State ι)
  | .start =>
    if s.control = .stopped then
      some { s with control := .starting, heartbeat := .waiting, stopEvent := false,
                    heartbeatStopEvent := false }
    else if s.control = .started then some s
    else none
  | .startDispatcher =>
    if s.control = .starting then some { s with control := .started, dispatcher := .checking }
    else none
  | .shutdown =>
    if s.control = .started then some { s with control := .joiningDispatcher, stopEvent := true }
    else if s.control = .stopped then some s
    else none
  | .joinDispatcher =>
    if s.control = .joiningDispatcher ∧ s.dispatcher.isDone then
      some { s with control := .drainingPool }
    else none
  | .joinPool =>
    if s.control = .drainingPool ∧ s.jobs.all (·.isOver) then
      some { s with control := .joiningHeartbeat, heartbeatStopEvent := true }
    else none
  | .joinHeartbeat =>
    if s.control = .joiningHeartbeat ∧ s.heartbeat.isDone then
      some { s with control := .stopped, dispatcher := .absent, heartbeat := .absent }
    else none
  | _ => none

/-- One step of the dispatcher. -/
def State.dispatcherStep (c : Settings ε) (s : State ι) (a : Action ι ε) : Option (State ι) :=
  match a, s.dispatcher with
  | .check, .checking =>
    some { s with dispatcher := if s.stopEvent then .ended else .measuring }
  | .measure, .measuring =>
    some { s with dispatcher := .claiming (c.maxWorkers - s.futures.length) }
  | .claim items, .claiming _ => some { s with dispatcher := afterClaim items }
  | .claimRaises error, .claiming _ =>
    some { s with dispatcher := if c.claimCaught error then .resting else .died }
  | .submit, .submitting (item :: items) =>
    some { s with jobs := s.jobs ++ [{ item }], dispatcher := .counting s.jobs.length items }
  | .count, .counting n items =>
    some { s with futures := s.futures ++ [n], dispatcher := .registering n items }
  | .register, .registering n items =>
    match s.jobs[n]? with
    | none => none
    | some job =>
      if job.isOver then some { s with dispatcher := .callingBack n items }
      else some { s.setJob n { job with registered := true } with dispatcher := afterSubmit items }
  | .callBack, .callingBack n items =>
    some { s with futures := s.futures.erase n, dispatcher := afterSubmit items }
  | .rest, .resting => some { s with dispatcher := .checking }
  | _, _ => none

/-- One step of a worker, which takes its jobs from the pool's queue. -/
def State.workerStep (c : Settings ε) (s : State ι) (n : ℕ) (job : Job ι) :
    Action ι ε → Option (State ι)
  | .begin _ =>
    if job.stage = .queued ∧ s.jobs.countP (·.isBusy) < c.maxWorkers then
      some (s.setJob n { job with stage := .running })
    else none
  | .finish _ =>
    if job.stage = .running then
      some (s.setJob n { job with stage := if job.registered then .callingBack else .over })
    else none
  | .workerCallsBack _ =>
    if job.stage = .callingBack then
      some { s.setJob n { job with stage := .over } with futures := s.futures.erase n }
    else none
  | _ => none

/-- One step of the heartbeat. -/
def State.heartbeatStep (c : Settings ε) (s : State ι) : Action ι ε → Option (State ι)
  | .tick =>
    if s.heartbeat = .waiting then
      some { s with heartbeat := if s.heartbeatStopEvent then .ended else .renewing }
    else none
  | .renew => if s.heartbeat = .renewing then some { s with heartbeat := .waiting } else none
  | .renewRaises error =>
    if s.heartbeat = .renewing then
      some { s with heartbeat := if c.renewCaught error then .waiting else .died }
    else none
  | _ => none

def State.step (c : Settings ε) (s : State ι) (a : Action ι ε) : Option (State ι) :=
  match a with
  | .start | .startDispatcher | .shutdown | .joinDispatcher | .joinPool | .joinHeartbeat =>
    s.controlStep a
  | .begin n | .finish n | .workerCallsBack n =>
    match s.jobs[n]? with
    | none => none
    | some job => s.workerStep c n job a
  | .tick | .renew | .renewRaises _ => s.heartbeatStep c a
  | a => s.dispatcherStep c a

/-! ## Futures and jobs -/

/-- The claimed items that are not in the pool yet. -/
def DispatcherPoint.items : DispatcherPoint ι → List ι
  | .submitting items | .counting _ items | .registering _ items | .callingBack _ items => items
  | _ => []

/-- The room that is taken and that no future takes up yet. -/
def DispatcherPoint.reserved : DispatcherPoint ι → ℤ
  | .claiming room => room
  | .counting _ items => items.length + 1
  | p => p.items.length

def DispatcherPoint.counts (n : ℕ) : DispatcherPoint ι → Bool
  | .counting m _ => m = n
  | _ => false

def DispatcherPoint.registers (n : ℕ) : DispatcherPoint ι → Bool
  | .registering m _ => m = n
  | _ => false

def DispatcherPoint.callsBack (n : ℕ) : DispatcherPoint ι → Bool
  | .callingBack m _ => m = n
  | _ => false

/-- Who is to count the job, and who is to call it back. -/
structure JobOk (futures : List ℕ) (dispatcher : DispatcherPoint ι) (n : ℕ) (job : Job ι) : Prop where
  counted : job.isOver = false → n ∈ futures ∨ dispatcher.counts n = true
  owed : job.isOver = true → n ∈ futures →
    dispatcher.registers n = true ∨ dispatcher.callsBack n = true
  unregistered : job.isOver = false → job.registered = false →
    dispatcher.counts n = true ∨ dispatcher.registers n = true
  registered : job.stage = .callingBack → job.registered = true

/-- The futures that count leave room for the items that have been claimed. -/
structure PoolInv (c : Settings ε) (s : State ι) : Prop where
  distinct : s.futures.Nodup
  known : ∀ n ∈ s.futures, n < s.jobs.length
  room : (s.futures.length : ℤ) + s.dispatcher.reserved ≤ c.maxWorkers
  jobs : ∀ n job, s.jobs[n]? = some job → JobOk s.futures s.dispatcher n job
  claims : ∀ room, s.dispatcher = .claiming room → 0 ≤ room
  fresh : ∀ n, s.dispatcher.counts n = true → n < s.jobs.length ∧ n ∉ s.futures
  done : ∀ n job, s.dispatcher.callsBack n = true → s.jobs[n]? = some job → job.isOver = true

/-- A claim that returns no more items than there is room for. -/
def State.claimsInRoom (s : State ι) : Action ι ε → Prop
  | .claim items => ∀ room, s.dispatcher = .claiming room → (items.length : ℤ) ≤ max room 0
  | _ => True

@[simp] theorem items_afterClaim (items : List ι) : (afterClaim items).items = items := by
  cases items <;> rfl

@[simp] theorem items_afterSubmit (items : List ι) : (afterSubmit items).items = items := by
  cases items <;> rfl

variable {c : Settings ε} {s t : State ι}

theorem PoolInv.initial : PoolInv c ({} : State ι) where
  distinct := List.nodup_nil
  known := by simp
  room := by simp [DispatcherPoint.reserved, DispatcherPoint.items]
  jobs := by simp
  claims := by simp
  fresh := by simp [DispatcherPoint.counts]
  done := by simp [DispatcherPoint.callsBack]

theorem PoolInv.reserved_nonneg (h : PoolInv c s) : 0 ≤ s.dispatcher.reserved := by
  cases hp : s.dispatcher with
  | claiming room => exact h.claims room hp
  | counting n items => exact Int.natCast_nonneg (items.length + 1)
  | _ => exact Int.natCast_nonneg _

/-- The point is between two submissions. -/
def DispatcherPoint.IsIdle (p : DispatcherPoint ι) : Prop :=
  ∀ n, p.counts n = false ∧ p.registers n = false ∧ p.callsBack n = false

theorem afterSubmit_isIdle (items : List ι) : (afterSubmit items).IsIdle := by
  cases items <;> exact fun _ => ⟨rfl, rfl, rfl⟩

theorem afterClaim_isIdle (items : List ι) : (afterClaim items).IsIdle := by
  cases items <;> exact fun _ => ⟨rfl, rfl, rfl⟩

theorem afterSubmit_reserved (items : List ι) : (afterSubmit items).reserved = items.length := by
  cases items <;> rfl

theorem afterClaim_reserved (items : List ι) : (afterClaim items).reserved = items.length := by
  cases items <;> rfl

/-- Every job is over and called back, or is counted and will be called back by its worker. -/
def State.Settled (s : State ι) : Prop :=
  ∀ n job, s.jobs[n]? = some job →
    (job.isOver = true → n ∉ s.futures) ∧
      (job.isOver = false → n ∈ s.futures ∧ job.registered = true)

theorem PoolInv.settled (h : PoolInv c s) (hs : s.dispatcher.IsIdle) : s.Settled := by
  intro n job hjob
  obtain ⟨hcounted, howed, hunregistered, -⟩ := h.jobs n job hjob
  obtain ⟨hcounts, hregisters, hcallsBack⟩ := hs n
  simp only [hcounts, hregisters, Bool.false_eq_true, or_self] at hunregistered
  simp only [hcounts, hregisters, hcallsBack, Bool.false_eq_true, or_false] at hcounted howed
  refine ⟨howed, fun hover => ⟨hcounted hover, ?_⟩⟩
  by_contra hreg
  exact hunregistered hover (Bool.not_eq_true _ ▸ hreg)

/-- With all jobs settled the dispatcher may go to any point between two submissions. -/
theorem PoolInv.moveIdle (h : PoolInv c s) {p : DispatcherPoint ι} (hs : s.Settled)
    (hjobs : t.jobs = s.jobs) (hfutures : t.futures = s.futures) (ht : t.dispatcher = p)
    (hp : p.IsIdle) (hroom : (s.futures.length : ℤ) + p.reserved ≤ c.maxWorkers)
    (hclaims : ∀ room, p = .claiming room → 0 ≤ room) : PoolInv c t := by
  subst ht
  constructor
  · rw [hfutures]
    exact h.distinct
  · rw [hfutures, hjobs]
    exact h.known
  · rw [hfutures]
    exact hroom
  · intro n job hjob
    rw [hjobs] at hjob
    obtain ⟨hover, hcounted⟩ := hs n job hjob
    rw [hfutures]
    refine ⟨fun h' => Or.inl (hcounted h').1, fun h' hmem => (hover h' hmem).elim, ?_,
      (h.jobs n job hjob).registered⟩
    intro h' hreg
    rw [(hcounted h').2] at hreg
    cases hreg
  · exact hclaims
  · intro n hn
    rw [(hp n).1] at hn
    cases hn
  · intro n job hn
    rw [(hp n).2.2] at hn
    cases hn

theorem PoolInv.setJob (h : PoolInv c s) {n : ℕ} {job : Job ι}
    (hok : JobOk s.futures s.dispatcher n job)
    (hdone : s.dispatcher.callsBack n = true → job.isOver = true) : PoolInv c (s.setJob n job) := by
  constructor
  · exact h.distinct
  · intro m hm
    rw [State.setJob, List.length_set]
    exact h.known m hm
  · exact h.room
  · intro m other hother
    rcases Machine.getElem?_set_cases hother with ⟨rfl, rfl⟩ | ⟨-, hold⟩
    · exact hok
    · exact h.jobs m other hold
  · exact h.claims
  · intro m hm
    rw [State.setJob, List.length_set]
    exact h.fresh m hm
  · intro m other hm hother
    rcases Machine.getElem?_set_cases hother with ⟨rfl, rfl⟩ | ⟨-, hold⟩
    · exact hdone hm
    · exact h.done m other hm hold

/-- The callback of a job that is over gives its room back. -/
theorem PoolInv.discard (h : PoolInv c s) {n : ℕ} {jobs : List (Job ι)}
    (hlength : jobs.length = s.jobs.length)
    (hothers : ∀ m job, m ≠ n → jobs[m]? = some job → s.jobs[m]? = some job)
    (hover : ∀ job, jobs[n]? = some job → job.isOver = true) :
    PoolInv c { s with jobs, futures := s.futures.erase n } := by
  have hsub : ∀ m, m ∈ s.futures.erase n → m ∈ s.futures := fun _ => List.mem_of_mem_erase
  constructor
  · exact h.distinct.erase n
  · exact fun m hm => hlength ▸ h.known m (hsub m hm)
  · have hroom := h.room
    have hle := List.length_erase_le (l := s.futures) (a := n)
    dsimp only
    omega
  · intro m job hjob
    by_cases hmn : m = n
    · subst hmn
      have hnotin : m ∉ s.futures.erase m := h.distinct.not_mem_erase
      have hdone := hover job hjob
      have hstage : job.stage = .over := by simpa [Job.isOver] using hdone
      refine ⟨?_, fun _ hmem => absurd hmem hnotin, ?_, ?_⟩
      · exact fun h' => absurd (hdone.symm.trans h') (by decide)
      · exact fun h' => absurd (hdone.symm.trans h') (by decide)
      · exact fun h' => absurd (hstage.symm.trans h') (by decide)
    · obtain ⟨hcounted, howed, hunregistered, hregistered⟩ := h.jobs m job (hothers m job hmn hjob)
      refine ⟨fun h' => ?_, fun h' hmem => howed h' (hsub m hmem), hunregistered, hregistered⟩
      exact (hcounted h').imp_left (List.mem_erase_of_ne hmn).mpr
  · exact h.claims
  · intro m hm
    exact ⟨hlength ▸ (h.fresh m hm).1, fun hmem => (h.fresh m hm).2 (hsub m hmem)⟩
  · intro m job hm hjob
    by_cases hmn : m = n
    · subst hmn
      exact hover job hjob
    · exact h.done m job hm (hothers m job hmn hjob)

/-- The futures of the jobs that are not over, at any time, fit into the pool. -/
theorem PoolInv.futures_le (h : PoolInv c s) : (s.futures.length : ℤ) ≤ c.maxWorkers := by
  have hroom := h.room
  have hreserved := h.reserved_nonneg
  omega

/-! ## The steps of the dispatcher -/

theorem PoolInv.submit (h : PoolInv c s) {item : ι} {items : List ι}
    (hp : s.dispatcher = .submitting (item :: items)) :
    PoolInv c { s with jobs := s.jobs ++ [{ item }], dispatcher := .counting s.jobs.length items } := by
  have hbound : ∀ n ∈ s.futures, n ≠ s.jobs.length := fun n hn => (h.known n hn).ne
  constructor
  · exact h.distinct
  · intro n hn
    rw [List.length_append, List.length_singleton]
    exact (h.known n hn).trans (Nat.lt_succ_self _)
  · have hroom := h.room
    simp only [hp, DispatcherPoint.reserved, DispatcherPoint.items, List.length_cons] at hroom ⊢
    push_cast at hroom
    omega
  · intro n job hjob
    rcases Machine.getElem?_append_cases hjob with hold | ⟨rfl, rfl⟩
    · obtain ⟨hcounted, howed, hunregistered, hregistered⟩ := h.jobs n job hold
      simp only [hp, DispatcherPoint.counts, DispatcherPoint.registers, DispatcherPoint.callsBack,
        Bool.false_eq_true, or_false, or_self] at hcounted howed hunregistered
      exact ⟨fun hover => Or.inl (hcounted hover), fun hover hmem => (howed hover hmem).elim,
        fun hover hreg => (hunregistered hover hreg).elim, hregistered⟩
    · constructor
      · intro _
        right
        simp [DispatcherPoint.counts]
      · intro hover
        cases hover
      · intro _ _
        left
        simp [DispatcherPoint.counts]
      · intro hstage
        cases hstage
  · intro room hclaiming
    cases hclaiming
  · intro n hn
    obtain rfl : s.jobs.length = n := by simpa [DispatcherPoint.counts] using hn
    exact ⟨by simp, fun hmem => hbound _ hmem rfl⟩
  · intro n job hn
    cases hn

theorem PoolInv.count (h : PoolInv c s) {n : ℕ} {items : List ι}
    (hp : s.dispatcher = .counting n items) :
    PoolInv c { s with futures := s.futures ++ [n], dispatcher := .registering n items } := by
  obtain ⟨hlt, hnotin⟩ := h.fresh n (by simp [hp, DispatcherPoint.counts])
  constructor
  · exact List.nodup_append.mpr ⟨h.distinct, List.nodup_singleton n, by
      intro m hm k hk
      rw [List.mem_singleton.mp hk]
      exact fun he => hnotin (he ▸ hm)⟩
  · intro m hm
    rcases List.mem_append.mp hm with hm | hm
    · exact h.known m hm
    · rw [List.mem_singleton.mp hm]
      exact hlt
  · have hroom := h.room
    simp only [hp, DispatcherPoint.reserved, DispatcherPoint.items, List.length_append,
      List.length_singleton] at hroom ⊢
    push_cast
    omega
  · intro m job hjob
    obtain ⟨hcounted, howed, hunregistered, hregistered⟩ := h.jobs m job hjob
    simp only [hp, DispatcherPoint.counts, DispatcherPoint.registers, DispatcherPoint.callsBack,
      decide_eq_true_eq, Bool.false_eq_true, or_false] at hcounted howed hunregistered
    constructor
    · intro hover
      left
      rcases hcounted hover with hmem | rfl
      · exact List.mem_append_left _ hmem
      · exact List.mem_append_right _ List.mem_cons_self
    · intro hover hmem
      left
      rcases List.mem_append.mp hmem with hmem | hmem
      · exact (howed hover hmem).elim
      · simp [DispatcherPoint.registers, List.mem_singleton.mp hmem]
    · intro hover hreg
      right
      simp [DispatcherPoint.registers, hunregistered hover hreg]
    · exact hregistered
  · intro room hclaiming
    cases hclaiming
  · intro m hm
    cases hm
  · intro m job hm
    cases hm

theorem PoolInv.callBack (h : PoolInv c s) {n : ℕ} {items : List ι}
    (hp : s.dispatcher = .callingBack n items) :
    PoolInv c { s with futures := s.futures.erase n, dispatcher := afterSubmit items } := by
  have hdone : s.dispatcher.callsBack n = true := by simp [hp, DispatcherPoint.callsBack]
  have hdiscard := h.discard rfl (fun _ _ _ hjob => hjob) fun job hjob => h.done n job hdone hjob
  refine hdiscard.moveIdle ?_ rfl rfl rfl (afterSubmit_isIdle items) ?_ ?_
  · intro m job hjob
    obtain ⟨hcounted, howed, hunregistered, -⟩ := hdiscard.jobs m job hjob
    simp only [hp, DispatcherPoint.counts, DispatcherPoint.registers, Bool.false_eq_true,
      or_self] at hunregistered
    simp only [hp, DispatcherPoint.counts, DispatcherPoint.registers, DispatcherPoint.callsBack,
      decide_eq_true_eq, Bool.false_eq_true, or_false, false_or] at hcounted howed
    constructor
    · intro hover hmem
      obtain rfl := howed hover hmem
      exact h.distinct.not_mem_erase hmem
    · intro hover
      exact ⟨hcounted hover, by_contra fun hreg => hunregistered hover (Bool.not_eq_true _ ▸ hreg)⟩
  · have hroom := hdiscard.room
    simp only [hp, DispatcherPoint.reserved, DispatcherPoint.items] at hroom
    rw [afterSubmit_reserved]
    exact hroom
  · intro room hclaiming
    cases items <;> cases hclaiming

theorem PoolInv.register (h : PoolInv c s) {n : ℕ} {items : List ι}
    (hp : s.dispatcher = .registering n items) {job : Job ι} (hjob : s.jobs[n]? = some job)
    (hover : job.isOver = false) :
    PoolInv c { s.setJob n { job with registered := true } with dispatcher := afterSubmit items } := by
  obtain ⟨hcounted, howed, -, -⟩ := h.jobs n job hjob
  have hregistered : PoolInv c (s.setJob n { job with registered := true }) := by
    apply h.setJob
    · constructor
      · exact hcounted
      · exact howed
      · intro _ hreg
        cases hreg
      · exact fun _ => rfl
    · intro hback
      simp [hp, DispatcherPoint.callsBack] at hback
  refine hregistered.moveIdle ?_ rfl rfl rfl (afterSubmit_isIdle items) ?_ ?_
  · intro m other hother
    rcases Machine.getElem?_set_cases hother with ⟨rfl, rfl⟩ | ⟨hne, hold⟩
    · refine ⟨fun h' => ?_, fun _ => ⟨?_, rfl⟩⟩
      · exact absurd (hover.symm.trans h') (by decide)
      · simpa [hp, DispatcherPoint.counts] using hcounted hover
    · obtain ⟨hcounted, howed, hunregistered, -⟩ := h.jobs m other hold
      simp only [hp, DispatcherPoint.counts, DispatcherPoint.registers, DispatcherPoint.callsBack,
        decide_eq_true_eq, Bool.false_eq_true, or_false, false_or] at hcounted howed hunregistered
      refine ⟨fun h' hmem => hne (howed h' hmem).symm, fun h' => ⟨hcounted h', ?_⟩⟩
      by_contra hreg
      exact hne (hunregistered h' (Bool.not_eq_true _ ▸ hreg)).symm
  · have hroom := h.room
    simp only [hp, DispatcherPoint.reserved, DispatcherPoint.items] at hroom
    rw [afterSubmit_reserved]
    exact hroom
  · intro room hclaiming
    cases items <;> cases hclaiming

/-- The future was done before its callback was registered. -/
theorem PoolInv.overtake (h : PoolInv c s) {n : ℕ} {items : List ι}
    (hp : s.dispatcher = .registering n items) {job : Job ι} (hjob : s.jobs[n]? = some job)
    (hover : job.isOver = true) : PoolInv c { s with dispatcher := .callingBack n items } := by
  constructor
  · exact h.distinct
  · exact h.known
  · have hroom := h.room
    simp only [hp, DispatcherPoint.reserved, DispatcherPoint.items] at hroom ⊢
    exact hroom
  · intro m other hother
    obtain ⟨hcounted, howed, hunregistered, hregistered⟩ := h.jobs m other hother
    simp only [hp, DispatcherPoint.counts, DispatcherPoint.registers, DispatcherPoint.callsBack,
      decide_eq_true_eq, Bool.false_eq_true, or_false, false_or] at hcounted howed hunregistered
    constructor
    · exact fun h' => Or.inl (hcounted h')
    · intro h' hmem
      right
      simp [DispatcherPoint.callsBack, howed h' hmem]
    · intro h' hreg
      obtain rfl := hunregistered h' hreg
      obtain rfl := Option.some.inj (hjob.symm.trans hother)
      exact absurd (hover.symm.trans h') (by decide)
    · exact hregistered
  · intro room hclaiming
    cases hclaiming
  · intro m hm
    cases hm
  · intro m other hm hother
    obtain rfl : n = m := by simpa [DispatcherPoint.callsBack] using hm
    obtain rfl := Option.some.inj (hjob.symm.trans hother)
    exact hover

theorem PoolInv.dispatcherStep (h : PoolInv c s) {a : Action ι ε} (ha : s.claimsInRoom a)
    (hstep : s.dispatcherStep c a = some t) : PoolInv c t := by
  have hfutures := h.futures_le
  have hidle : ∀ {p : DispatcherPoint ι}, s.dispatcher = p → p.IsIdle → s.Settled := by
    intro p hp hidle
    exact h.settled (hp ▸ hidle)
  have hnone : ∀ n : ℕ, false = false ∧ false = false ∧ false = false := fun _ => ⟨rfl, rfl, rfl⟩
  unfold State.dispatcherStep at hstep
  split at hstep
  · rename_i hp
    cases hstep
    refine h.moveIdle (hidle hp hnone) rfl rfl rfl ?_ ?_ ?_
    · split_ifs <;> exact hnone
    · split_ifs <;> simpa [DispatcherPoint.reserved, DispatcherPoint.items] using hfutures
    · intro room hclaiming
      split_ifs at hclaiming
  · rename_i hp
    cases hstep
    refine h.moveIdle (hidle hp hnone) rfl rfl rfl hnone ?_ ?_
    · simp [DispatcherPoint.reserved]
    · intro room hclaiming
      cases hclaiming
      omega
  · rename_i items room hp
    cases hstep
    refine h.moveIdle (hidle hp hnone) rfl rfl rfl (afterClaim_isIdle items) ?_ ?_
    · have hroom := h.room
      have hpos := h.claims room hp
      have hle := ha room hp
      rw [hp, DispatcherPoint.reserved] at hroom
      rw [afterClaim_reserved]
      omega
    · intro room hclaiming
      cases items <;> cases hclaiming
  · rename_i hp
    cases hstep
    refine h.moveIdle (hidle hp hnone) rfl rfl rfl ?_ ?_ ?_
    · split_ifs <;> exact hnone
    · split_ifs <;> simpa [DispatcherPoint.reserved, DispatcherPoint.items] using hfutures
    · intro room hclaiming
      split_ifs at hclaiming
  · rename_i hp
    cases hstep
    exact h.submit hp
  · rename_i hp
    cases hstep
    exact h.count hp
  · rename_i n items hp
    split at hstep
    · cases hstep
    · rename_i job hjob
      split_ifs at hstep with hover
      · cases hstep
        exact h.overtake hp hjob hover
      · cases hstep
        exact h.register hp hjob (Bool.not_eq_true _ ▸ hover)
  · rename_i hp
    cases hstep
    exact h.callBack hp
  · rename_i hp
    cases hstep
    refine h.moveIdle (hidle hp hnone) rfl rfl rfl hnone ?_ ?_
    · simpa [DispatcherPoint.reserved, DispatcherPoint.items] using hfutures
    · intro room hclaiming
      cases hclaiming
  · cases hstep

/-! ## The steps of the workers -/

/-- A worker takes the job from the queue, or ends it. -/
theorem PoolInv.work (h : PoolInv c s) {n : ℕ} {job : Job ι} (hjob : s.jobs[n]? = some job)
    (hover : job.isOver = false) {stage : JobStage}
    (hfinished : stage = .over → job.registered = false)
    (hcalling : stage = .callingBack → job.registered = true) :
    PoolInv c (s.setJob n { job with stage }) := by
  obtain ⟨hcounted, -, hunregistered, -⟩ := h.jobs n job hjob
  apply h.setJob
  · constructor
    · exact fun _ => hcounted hover
    · intro hdone hmem
      left
      have hstage : stage = .over := by simpa [Job.isOver] using hdone
      rcases hunregistered hover (hfinished hstage) with hcounts | hregisters
      · exact absurd hmem (h.fresh n hcounts).2
      · exact hregisters
    · exact fun _ => hunregistered hover
    · exact hcalling
  · exact fun hback => absurd (hover.symm.trans (h.done n job hback hjob)) (by decide)

theorem PoolInv.workerStep (h : PoolInv c s) {n : ℕ} {job : Job ι} (hjob : s.jobs[n]? = some job)
    {a : Action ι ε} (hstep : s.workerStep c n job a = some t) : PoolInv c t := by
  unfold State.workerStep at hstep
  split at hstep
  · split_ifs at hstep with hqueued
    cases hstep
    exact h.work hjob (by simp [Job.isOver, hqueued.1]) nofun nofun
  · split_ifs at hstep with hrunning hregistered
    · cases hstep
      exact h.work hjob (by simp [Job.isOver, hrunning]) nofun fun _ => hregistered
    · cases hstep
      exact h.work hjob (by simp [Job.isOver, hrunning]) (fun _ => Bool.not_eq_true _ ▸ hregistered)
        nofun
  · split_ifs at hstep with hcalling
    cases hstep
    have hlt := (List.getElem?_eq_some_iff.mp hjob).1
    refine h.discard (List.length_set ..) ?_ ?_
    · intro m other hmn hother
      rwa [State.setJob_jobs, List.getElem?_set_ne hmn.symm] at hother
    · intro other hother
      rw [State.setJob_jobs, List.getElem?_set_self hlt] at hother
      cases hother
      rfl
  · cases hstep

end ConnectionTopology.WorkerPool
