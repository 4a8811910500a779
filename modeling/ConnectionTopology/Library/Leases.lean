import ConnectionTopology.Library.Machine

/-!
# Jobs under leases

What a queue with leases is for, apart from how it is stored: there is at most one job for a key,
a job waits or is leased to one worker until a deadline, and only that worker can end it, before
the deadline.
-/
namespace ConnectionTopology.Leases

variable {κ ι ω τ : Type} [DecidableEq ω] [LinearOrder τ]

structure Job (ι ω τ : Type) where
  ticket : ι
  /-- The worker and the end of its lease; a job without one waits. -/
  lease : Option (ω × τ) := none
  deriving DecidableEq, Repr

/-- What happens to the job of a key. -/
inductive Act (ι ω τ : Type)
  | submit (ticket : ι)
  | claim (worker : ω) (expires : τ)
  | renew (worker : ω) (now expires : τ)
  | expire (now : τ)
  | settle (worker : ω) (now : τ)
  | cancel
  deriving DecidableEq, Repr

def step : Option (Job ι ω τ) → Act ι ω τ → Option (Option (Job ι ω τ))
  | none, .submit ticket => some (some { ticket })
  | some ⟨ticket, none⟩, .claim worker expires => some (some ⟨ticket, some (worker, expires)⟩)
  | some ⟨ticket, some (holder, due)⟩, .renew worker now expires =>
    if holder = worker ∧ now < due then some (some ⟨ticket, some (worker, expires)⟩) else none
  | some ⟨ticket, some (_, due)⟩, .expire now => if due ≤ now then some (some { ticket }) else none
  | some ⟨_, some (holder, due)⟩, .settle worker now =>
    if holder = worker ∧ now < due then some none else none
  | some ⟨_, none⟩, .cancel => some none
  | _, _ => none

/-! ## Nothing is lost and nothing done twice -/

def Act.isSubmit : Act ι ω τ → Bool
  | .submit _ => true
  | _ => false

/-- The job is over. -/
def Act.isEnd : Act ι ω τ → Bool
  | .settle _ _ | .cancel => true
  | _ => false

def Act.isClaim : Act ι ω τ → Bool
  | .claim _ _ => true
  | _ => false

/-- The lease is over. -/
def Act.isRelease : Act ι ω τ → Bool
  | .expire _ | .settle _ _ => true
  | _ => false

/-- A job is there, as a number. -/
def present (job : Option (Job ι ω τ)) : ℕ := if job.isSome then 1 else 0

/-- A lease is out, as a number. -/
def leased (job : Option (Job ι ω τ)) : ℕ := if (job.bind (·.lease)).isSome then 1 else 0

theorem step_present {job job' : Option (Job ι ω τ)} {act : Act ι ω τ}
    (h : step job act = some job') :
    present job + (if act.isSubmit then 1 else 0) = present job' + (if act.isEnd then 1 else 0) := by
  unfold step at h
  split at h <;> (try split_ifs at h) <;> cases h <;> rfl

/-- A job is submitted where there is none, and its end leaves none. -/
theorem step_ends {job job' : Option (Job ι ω τ)} {act : Act ι ω τ}
    (h : step job act = some job') : act.isSubmit = job.isNone ∧ act.isEnd = job'.isNone := by
  unfold step at h
  split at h <;> (try split_ifs at h) <;> cases h <;> exact ⟨rfl, rfl⟩

theorem step_leased {job job' : Option (Job ι ω τ)} {act : Act ι ω τ}
    (h : step job act = some job') :
    leased job + (if act.isClaim then 1 else 0) =
      leased job' + (if act.isRelease then 1 else 0) := by
  unfold step at h
  split at h <;> (try split_ifs at h) <;> cases h <;> rfl

/-- Every job that was submitted is there or is over, and every lease that was given is out or is
over. -/
theorem run_conserves {job job' : Option (Job ι ω τ)} {acts : List (Act ι ω τ)}
    (hrun : Machine.run step job acts = some job') :
    present job + acts.countP Act.isSubmit = present job' + acts.countP Act.isEnd ∧
      leased job + acts.countP Act.isClaim = leased job' + acts.countP Act.isRelease := by
  induction acts generalizing job with
  | nil =>
    cases hrun
    exact ⟨rfl, rfl⟩
  | cons act rest ih =>
    obtain ⟨mid, hstep, hrest⟩ := Option.bind_eq_some_iff.mp hrun
    obtain ⟨hjobs, hleases⟩ := ih hrest
    have hpresent := step_present hstep
    have hleased := step_leased hstep
    simp only [List.countP_cons]
    omega

/-! ## Keys that are used once -/

/-- A key has no job yet, has one, or had the only one it will have. -/
def onceStep : Option (Option (Job ι ω τ)) → Act ι ω τ → Option (Option (Option (Job ι ω τ)))
  | none, .submit ticket => some (some (some { ticket }))
  | some (some job), act => (step (some job) act).map some
  | _, _ => none

variable {life life' : Option (Option (Job ι ω τ))}

/-- The key has had its job, as a number. -/
def begun (life : Option (Option (Job ι ω τ))) : ℕ := if life.isSome then 1 else 0

/-- Its job is over, as a number. -/
def ended (life : Option (Option (Job ι ω τ))) : ℕ := if life.any Option.isNone then 1 else 0

theorem onceStep_join {act : Act ι ω τ} (h : onceStep life act = some life') :
    step life.join act = some life'.join := by
  unfold onceStep at h
  split at h
  · cases h
    rfl
  · obtain ⟨job, hstep, rfl⟩ := Option.map_eq_some_iff.mp h
    exact hstep
  · cases h

theorem onceStep_counts {act : Act ι ω τ} (h : onceStep life act = some life') :
    begun life + (if act.isSubmit then 1 else 0) = begun life' ∧
      ended life + (if act.isEnd then 1 else 0) = ended life' := by
  rcases life with _ | _ | ⟨ticket, lease⟩
  · cases act with
    | submit ticket =>
      cases h
      exact ⟨rfl, rfl⟩
    | _ => cases h
  · cases h
  · obtain ⟨job, hstep, rfl⟩ := Option.map_eq_some_iff.mp h
    obtain ⟨hsubmit, hend⟩ := step_ends hstep
    rw [hsubmit, hend]
    cases job <;> exact ⟨rfl, rfl⟩

theorem run_once_join {acts : List (Act ι ω τ)}
    (hrun : Machine.run onceStep life acts = some life') : Machine.run step life.join acts = some life'.join := by
  induction acts generalizing life with
  | nil =>
    cases hrun
    rfl
  | cons act rest ih =>
    obtain ⟨mid, hstep, hrest⟩ := Option.bind_eq_some_iff.mp hrun
    rw [Machine.run, onceStep_join hstep]
    exact ih hrest

/-- A key is submitted at most once, and its job ends at most once. -/
theorem run_once_counts {acts : List (Act ι ω τ)}
    (hrun : Machine.run onceStep life acts = some life') :
    begun life + acts.countP Act.isSubmit = begun life' ∧
      ended life + acts.countP Act.isEnd = ended life' := by
  induction acts generalizing life with
  | nil =>
    cases hrun
    exact ⟨rfl, rfl⟩
  | cons act rest ih =>
    obtain ⟨mid, hstep, hrest⟩ := Option.bind_eq_some_iff.mp hrun
    obtain ⟨hbegun, hended⟩ := onceStep_counts hstep
    obtain ⟨hbegun', hended'⟩ := ih hrest
    simp only [List.countP_cons]
    omega

/-! ## A worker that renews in time -/

/-- No sweep comes after the lease is over, and the worker does not settle. -/
def InTime (worker : ω) : τ → List (Act ι ω τ) → Prop
  | _, [] => True
  | _, .renew _ _ expires :: rest => InTime worker expires rest
  | due, .expire now :: rest => now < due ∧ InTime worker due rest
  | due, .settle settler _ :: rest => settler ≠ worker ∧ InTime worker due rest
  | due, _ :: rest => InTime worker due rest

/-- The end of the lease after the renewals. -/
def lastDue : τ → List (Act ι ω τ) → τ
  | due, [] => due
  | _, .renew _ _ expires :: rest => lastDue expires rest
  | due, _ :: rest => lastDue due rest

omit [DecidableEq ω] in
theorem inTime_renew (worker renewer : ω) (due now expires : τ) :
    InTime worker due ([.renew renewer now expires] : List (Act ι ω τ)) ∧
      lastDue due ([.renew renewer now expires] : List (Act ι ω τ)) = expires :=
  ⟨trivial, rfl⟩

/-- The job stays with the worker. -/
theorem run_inTime {worker : ω} {ticket : ι} {acts : List (Act ι ω τ)} {due : τ}
    {job : Option (Job ι ω τ)} (htime : InTime worker due acts)
    (hrun : Machine.run step (some ⟨ticket, some (worker, due)⟩) acts = some job) :
    job = some ⟨ticket, some (worker, lastDue due acts)⟩ ∧
      acts.countP Act.isClaim = 0 ∧ acts.countP Act.isRelease = 0 := by
  induction acts generalizing due with
  | nil =>
    cases hrun
    exact ⟨rfl, rfl, rfl⟩
  | cons act rest ih =>
    obtain ⟨mid, hstep, hrest⟩ := Option.bind_eq_some_iff.mp hrun
    cases act with
    | renew renewer now expires =>
      simp only [step] at hstep
      split_ifs at hstep with hholds
      cases hstep
      obtain ⟨rfl, -⟩ := hholds
      exact ih htime hrest
    | expire now =>
      simp only [step] at hstep
      split_ifs at hstep with hover
      exact absurd htime.1 (not_lt.mpr hover)
    | settle settler now =>
      simp only [step] at hstep
      split_ifs at hstep with hholds
      exact absurd hholds.1.symm htime.1
    | submit _ | claim _ _ | cancel => cases hstep

omit [DecidableEq ω] in
theorem inTime_append {worker : ω} {due : τ} {acts acts' : List (Act ι ω τ)}
    (h : InTime worker due acts) (h' : InTime worker (lastDue due acts) acts') :
    InTime worker due (acts ++ acts') ∧
      lastDue due (acts ++ acts') = lastDue (lastDue due acts) acts' := by
  induction acts generalizing due with
  | nil => exact ⟨h', rfl⟩
  | cons act rest ih =>
    cases act with
    | renew _ _ expires => exact ih h h'
    | expire _ => exact ⟨⟨h.1, (ih h.2 h').1⟩, (ih h.2 h').2⟩
    | settle _ _ => exact ⟨⟨h.1, (ih h.2 h').1⟩, (ih h.2 h').2⟩
    | submit _ | claim _ _ | cancel => exact ih h h'

end ConnectionTopology.Leases
