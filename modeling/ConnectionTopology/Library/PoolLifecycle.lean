import ConnectionTopology.Library.WorkerPool

/-!
# The life of a worker pool

The heartbeat is started before the dispatcher and stopped after the pool has been drained, so it
runs whenever a job may be unfinished. The items that are claimed and not over never outnumber
the workers, and once the pool is stopped none is left. A claim that raises an error the dispatcher
does not catch ends it until the pool is stopped and started again.
-/
namespace ConnectionTopology.WorkerPool

variable {ι ε : Type*} {c : Settings ε} {s t : State ι}

/-! ## The two service threads -/

/-- The dispatcher takes steps. -/
def DispatcherPoint.isLive : DispatcherPoint ι → Bool
  | .absent | .ended | .died => false
  | _ => true

/-- The dispatcher may be at work. -/
def ControlPoint.dispatches : ControlPoint → Bool
  | .started | .joiningDispatcher => true
  | _ => false

/-- The heartbeat has been started and not been told to stop. -/
def ControlPoint.beats : ControlPoint → Bool
  | .stopped | .joiningHeartbeat => false
  | _ => true

/-- The pool has been drained since the dispatcher last took a step. -/
def ControlPoint.isDrained : ControlPoint → Bool
  | .stopped | .starting | .joiningHeartbeat => true
  | _ => false

/-- `shutdown` has not been called since `start`. -/
def ControlPoint.isUp : ControlPoint → Bool
  | .starting | .started => true
  | _ => false

/-- The heartbeat runs as long as the pool has anything to do, and so does nothing else. -/
structure LifeInv (s : State ι) : Prop where
  idle : s.control.dispatches = false → s.dispatcher.isLive = false
  drained : s.control.isDrained = true → ∀ job ∈ s.jobs, job.isOver = true
  beats : s.control.beats = true →
    s.heartbeatStopEvent = false ∧ s.heartbeat ≠ .absent ∧ s.heartbeat ≠ .ended
  up : s.control.isUp = true → s.stopEvent = false
  works : s.control = .started → s.dispatcher ≠ .absent ∧ s.dispatcher ≠ .ended
  quiet : s.control = .stopped → s.dispatcher = .absent ∧ s.heartbeat = .absent

theorem DispatcherPoint.isIdle_of_not_isLive {p : DispatcherPoint ι} (h : p.isLive = false) :
    p.IsIdle ∧ p.items = [] := by
  cases p <;> first | exact ⟨fun _ => ⟨rfl, rfl, rfl⟩, rfl⟩ | cases h

theorem LifeInv.initial : LifeInv ({} : State ι) where
  idle := fun _ => rfl
  drained := by simp
  beats := nofun
  up := nofun
  works := nofun
  quiet := fun _ => ⟨rfl, rfl⟩

theorem LifeInv.controlStep (h : LifeInv s) {a : Action ι ε} (hstep : s.controlStep a = some t) :
    LifeInv t := by
  obtain ⟨hidle, hdrained, hbeats, hup, -, -⟩ := id h
  unfold State.controlStep at hstep
  split at hstep
  · split_ifs at hstep with hstopped hstarted
    · cases hstep
      rw [hstopped] at hidle hdrained
      exact ⟨fun _ => hidle rfl, fun _ => hdrained rfl, fun _ => ⟨rfl, nofun, nofun⟩, fun _ => rfl,
        nofun, nofun⟩
    · cases hstep
      exact h
  · split_ifs at hstep with hstarting
    cases hstep
    rw [hstarting] at hbeats hup
    exact ⟨nofun, nofun, fun _ => hbeats rfl, fun _ => hup rfl, fun _ => ⟨nofun, nofun⟩, nofun⟩
  · split_ifs at hstep with hstarted hstopped
    · cases hstep
      rw [hstarted] at hbeats
      exact ⟨nofun, nofun, fun _ => hbeats rfl, nofun, nofun, nofun⟩
    · cases hstep
      exact h
  · split_ifs at hstep with hjoined
    cases hstep
    rw [hjoined.1] at hbeats
    refine ⟨fun _ => ?_, nofun, fun _ => hbeats rfl, nofun, nofun, nofun⟩
    cases hp : s.dispatcher <;> first | rfl | simp [hp, DispatcherPoint.isDone] at hjoined
  · split_ifs at hstep with hjoined
    cases hstep
    rw [hjoined.1] at hidle
    exact ⟨fun _ => hidle rfl, fun _ => List.all_eq_true.mp hjoined.2, nofun, nofun, nofun, nofun⟩
  · split_ifs at hstep with hjoined
    cases hstep
    rw [hjoined.1] at hdrained
    exact ⟨fun _ => rfl, fun _ => hdrained rfl, nofun, nofun, nofun, fun _ => ⟨rfl, rfl⟩⟩
  · cases hstep

theorem afterClaim_isLive (items : List ι) : (afterClaim items).isLive = true := by
  cases items <;> rfl

theorem afterSubmit_isLive (items : List ι) : (afterSubmit items).isLive = true := by
  cases items <;> rfl

/-- A step of the dispatcher leaves the other threads alone; the loop ends with the stop event or
with an error of a claim that is not caught. -/
theorem State.dispatcherStep_frame {a : Action ι ε} (hstep : s.dispatcherStep c a = some t) :
    s.dispatcher.isLive = true ∧ t.control = s.control ∧ t.heartbeat = s.heartbeat ∧
      t.heartbeatStopEvent = s.heartbeatStopEvent ∧ t.stopEvent = s.stopEvent ∧
      (t.dispatcher.isLive = true ∨ (t.dispatcher = .ended ∧ s.stopEvent = true) ∨
        t.dispatcher = .died ∧ ∃ error, a = .claimRaises error ∧ c.claimCaught error = false) := by
  unfold State.dispatcherStep at hstep
  split at hstep
  · rename_i hp
    cases hstep
    refine ⟨by rw [hp]; rfl, rfl, rfl, rfl, rfl, ?_⟩
    cases hstop : s.stopEvent
    · exact Or.inl rfl
    · exact Or.inr (Or.inl ⟨rfl, rfl⟩)
  · rename_i hp
    cases hstep
    exact ⟨by rw [hp]; rfl, rfl, rfl, rfl, rfl, Or.inl rfl⟩
  · rename_i items _ hp
    cases hstep
    exact ⟨by rw [hp]; rfl, rfl, rfl, rfl, rfl, Or.inl (afterClaim_isLive items)⟩
  · rename_i error _ hp
    cases hstep
    refine ⟨by rw [hp]; rfl, rfl, rfl, rfl, rfl, ?_⟩
    cases hcaught : c.claimCaught error
    · exact Or.inr (Or.inr ⟨rfl, error, rfl, hcaught⟩)
    · exact Or.inl rfl
  · rename_i hp
    cases hstep
    exact ⟨by rw [hp]; rfl, rfl, rfl, rfl, rfl, Or.inl rfl⟩
  · rename_i hp
    cases hstep
    exact ⟨by rw [hp]; rfl, rfl, rfl, rfl, rfl, Or.inl rfl⟩
  · rename_i n items hp
    split at hstep
    · cases hstep
    · split_ifs at hstep <;> cases hstep
      · exact ⟨by rw [hp]; rfl, rfl, rfl, rfl, rfl, Or.inl rfl⟩
      · exact ⟨by rw [hp]; rfl, rfl, rfl, rfl, rfl, Or.inl (afterSubmit_isLive items)⟩
  · rename_i n items hp
    cases hstep
    exact ⟨by rw [hp]; rfl, rfl, rfl, rfl, rfl, Or.inl (afterSubmit_isLive items)⟩
  · rename_i hp
    cases hstep
    exact ⟨by rw [hp]; rfl, rfl, rfl, rfl, rfl, Or.inl rfl⟩
  · cases hstep

/-- A step of a worker moves its job and leaves the service threads alone. -/
theorem State.workerStep_frame {n : ℕ} {job : Job ι} {a : Action ι ε}
    (hstep : s.workerStep c n job a = some t) :
    job.isOver = false ∧ t.dispatcher = s.dispatcher ∧ t.control = s.control ∧
      t.heartbeat = s.heartbeat ∧ t.heartbeatStopEvent = s.heartbeatStopEvent ∧
      t.stopEvent = s.stopEvent ∧ ∃ stage, t.jobs = s.jobs.set n { job with stage } := by
  unfold State.workerStep at hstep
  split at hstep
  · split_ifs at hstep with hstage
    cases hstep
    exact ⟨by simp [Job.isOver, hstage.1], rfl, rfl, rfl, rfl, rfl, _, rfl⟩
  · split_ifs at hstep with hstage <;> cases hstep <;>
      exact ⟨by simp [Job.isOver, hstage], rfl, rfl, rfl, rfl, rfl, _, rfl⟩
  · split_ifs at hstep with hstage
    cases hstep
    exact ⟨by simp [Job.isOver, hstage], rfl, rfl, rfl, rfl, rfl, _, rfl⟩
  · cases hstep

/-- A step of the heartbeat leaves the other threads alone; the loop ends with its stop event or
with an error of a renewal that is not caught. -/
theorem State.heartbeatStep_frame {a : Action ι ε} (hstep : s.heartbeatStep c a = some t) :
    t = { s with heartbeat := t.heartbeat } ∧ s.heartbeat ≠ .absent ∧
      (s.heartbeatStopEvent = false → t.heartbeat ≠ .absent ∧ t.heartbeat ≠ .ended) ∧
      (t.heartbeat = .died → ∃ error, a = .renewRaises error ∧ c.renewCaught error = false) := by
  unfold State.heartbeatStep at hstep
  split at hstep
  · split_ifs at hstep with hwaiting hstop <;> cases hstep
    · exact ⟨rfl, by simp [hwaiting], fun hrunning => absurd (hstop.symm.trans hrunning) (by decide),
        nofun⟩
    · exact ⟨rfl, by simp [hwaiting], fun _ => ⟨nofun, nofun⟩, nofun⟩
  · split_ifs at hstep with hrenewing
    cases hstep
    exact ⟨rfl, by simp [hrenewing], fun _ => ⟨nofun, nofun⟩, nofun⟩
  · rename_i error
    split_ifs at hstep with hrenewing hcaught <;> cases hstep
    · exact ⟨rfl, by simp [hrenewing], fun _ => ⟨nofun, nofun⟩, nofun⟩
    · exact ⟨rfl, by simp [hrenewing], fun _ => ⟨nofun, nofun⟩,
        fun _ => ⟨error, rfl, Bool.not_eq_true _ ▸ hcaught⟩⟩
  · cases hstep

theorem ControlPoint.not_isDrained {p : ControlPoint} (h : p.dispatches = true) :
    p.isDrained = false := by
  cases p <;> first | rfl | cases h

/-- A step of the dispatcher or of a worker is not taken once the pool has been drained. -/
theorem LifeInv.of_undrained (h : LifeInv s) (hundrained : s.control.isDrained = false)
    (hcontrol : t.control = s.control) (hheartbeat : t.heartbeat = s.heartbeat)
    (hevent : t.heartbeatStopEvent = s.heartbeatStopEvent) (hstop : t.stopEvent = s.stopEvent)
    (hidle : s.control.dispatches = false → t.dispatcher.isLive = false)
    (hworks : s.control = .started → t.dispatcher ≠ .absent ∧ t.dispatcher ≠ .ended) :
    LifeInv t := by
  constructor
  · rw [hcontrol]
    exact hidle
  · rw [hcontrol, hundrained]
    exact nofun
  · rw [hcontrol, hheartbeat, hevent]
    exact h.beats
  · rw [hcontrol, hstop]
    exact h.up
  · rw [hcontrol]
    exact hworks
  · intro hstopped
    rw [← hcontrol, hstopped] at hundrained
    cases hundrained

theorem LifeInv.dispatcherStep (h : LifeInv s) {a : Action ι ε}
    (hstep : s.dispatcherStep c a = some t) : LifeInv t := by
  obtain ⟨hlive, hcontrol, hheartbeat, hevent, hstop, hleads⟩ := State.dispatcherStep_frame hstep
  have hdispatches : s.control.dispatches = true := by
    by_contra hnot
    have hidle := h.idle (Bool.not_eq_true _ ▸ hnot)
    exact absurd (hlive.symm.trans hidle) (by decide)
  refine h.of_undrained (ControlPoint.not_isDrained hdispatches) hcontrol hheartbeat hevent hstop ?_ ?_
  · exact fun hnot => absurd (hdispatches.symm.trans hnot) (by decide)
  · intro hstarted
    have hrunning := h.up (by rw [hstarted]; rfl)
    rcases hleads with hlive' | ⟨-, hended⟩ | ⟨hdied, -⟩
    · constructor <;> intro hp <;> rw [hp] at hlive' <;> cases hlive'
    · exact absurd (hended.symm.trans hrunning) (by decide)
    · rw [hdied]
      exact ⟨nofun, nofun⟩

theorem LifeInv.workerStep (h : LifeInv s) {n : ℕ} {job : Job ι} (hjob : s.jobs[n]? = some job)
    {a : Action ι ε} (hstep : s.workerStep c n job a = some t) : LifeInv t := by
  obtain ⟨hover, hdispatcher, hcontrol, hheartbeat, hevent, hstop, -⟩ :=
    State.workerStep_frame hstep
  refine h.of_undrained ?_ hcontrol hheartbeat hevent hstop ?_ ?_
  · by_contra hdrained
    have hdone := h.drained (Bool.not_eq_false _ ▸ hdrained) job (List.mem_of_getElem? hjob)
    exact absurd (hover.symm.trans hdone) (by decide)
  · rw [hdispatcher]
    exact h.idle
  · rw [hdispatcher]
    exact h.works

theorem LifeInv.heartbeatStep (h : LifeInv s) {a : Action ι ε}
    (hstep : s.heartbeatStep c a = some t) : LifeInv t := by
  obtain ⟨ht, hpresent, hgoes, -⟩ := State.heartbeatStep_frame hstep
  rw [ht]
  refine ⟨h.idle, h.drained, fun hbeats => ?_, h.up, h.works, ?_⟩
  · obtain ⟨hrunning, -⟩ := h.beats hbeats
    exact ⟨hrunning, hgoes hrunning⟩
  · exact fun hstopped => absurd (h.quiet hstopped).2 hpresent

/-! ## Runs -/

structure Inv (c : Settings ε) (s : State ι) : Prop where
  pool : PoolInv c s
  life : LifeInv s

theorem Inv.initial : Inv c ({} : State ι) := ⟨PoolInv.initial, LifeInv.initial⟩

/-- The pool is left alone by the steps of the other threads. -/
theorem PoolInv.of_eq (h : PoolInv c s) (hjobs : t.jobs = s.jobs) (hfutures : t.futures = s.futures)
    (hdispatcher : t.dispatcher = s.dispatcher) : PoolInv c t := by
  obtain ⟨hdistinct, hknown, hroom, hok, hclaims, hfresh, hdone⟩ := h
  constructor
  all_goals
    simp only [hjobs, hfutures, hdispatcher]
    assumption

theorem PoolInv.controlStep (h : PoolInv c s) (hlife : LifeInv s) {a : Action ι ε}
    (hstep : s.controlStep a = some t) : PoolInv c t := by
  have hfutures := h.futures_le
  unfold State.controlStep at hstep
  split at hstep
  · split_ifs at hstep <;> cases hstep
    · exact h.of_eq rfl rfl rfl
    · exact h
  · split_ifs at hstep with hstarting
    cases hstep
    have hidle := hlife.idle (by rw [hstarting]; rfl)
    refine h.moveIdle (h.settled (DispatcherPoint.isIdle_of_not_isLive hidle).1) rfl rfl rfl
      (fun _ => ⟨rfl, rfl, rfl⟩) ?_ fun room hclaiming => by cases hclaiming
    simpa [DispatcherPoint.reserved, DispatcherPoint.items] using hfutures
  · split_ifs at hstep <;> cases hstep
    · exact h.of_eq rfl rfl rfl
    · exact h
  · split_ifs at hstep
    cases hstep
    exact h.of_eq rfl rfl rfl
  · split_ifs at hstep
    cases hstep
    exact h.of_eq rfl rfl rfl
  · split_ifs at hstep with hjoined
    cases hstep
    have hidle := hlife.idle (by rw [hjoined.1]; rfl)
    refine h.moveIdle (h.settled (DispatcherPoint.isIdle_of_not_isLive hidle).1) rfl rfl rfl
      (fun _ => ⟨rfl, rfl, rfl⟩) ?_ fun room hclaiming => by cases hclaiming
    simpa [DispatcherPoint.reserved, DispatcherPoint.items] using hfutures
  · cases hstep

theorem State.step_cases {a : Action ι ε} (hstep : s.step c a = some t) :
    s.controlStep a = some t ∨
      (∃ n job, s.jobs[n]? = some job ∧ (∀ m, a = .finish m → m = n) ∧
        s.workerStep c n job a = some t) ∨
      s.heartbeatStep c a = some t ∨ s.dispatcherStep c a = some t := by
  unfold State.step at hstep
  split at hstep
  case h_7 n | h_9 n =>
    split at hstep
    · cases hstep
    · rename_i job hjob
      exact Or.inr (Or.inl ⟨n, job, hjob, nofun, hstep⟩)
  case h_8 n =>
    split at hstep
    · cases hstep
    · rename_i job hjob
      exact Or.inr (Or.inl ⟨n, job, hjob, fun _ hm => (Action.finish.inj hm).symm, hstep⟩)
  case h_10 | h_11 | h_12 => exact Or.inr (Or.inr (Or.inl hstep))
  case h_13 => exact Or.inr (Or.inr (Or.inr hstep))
  all_goals exact Or.inl hstep

theorem Inv.step (h : Inv c s) {a : Action ι ε} (ha : s.claimsInRoom a) (hstep : s.step c a = some t) :
    Inv c t := by
  rcases State.step_cases hstep with hstep | ⟨n, job, hjob, -, hstep⟩ | hstep | hstep
  · exact ⟨h.pool.controlStep h.life hstep, h.life.controlStep hstep⟩
  · exact ⟨h.pool.workerStep hjob hstep, h.life.workerStep hjob hstep⟩
  · obtain ⟨ht, -⟩ := State.heartbeatStep_frame hstep
    refine ⟨?_, h.life.heartbeatStep hstep⟩
    rw [ht]
    exact h.pool.of_eq rfl rfl rfl
  · exact ⟨h.pool.dispatcherStep ha hstep, h.life.dispatcherStep hstep⟩

/-- Apart from a claim and a submission no step changes which items are claimed, and a future is
done by the end of its job only. -/
structure State.SameItems (s t : State ι) (a : Action ι ε) : Prop where
  items : t.dispatcher.items = s.dispatcher.items
  jobs : t.jobs.map (·.item) = s.jobs.map (·.item)
  done : ∀ n job, t.jobs[n]? = some job → job.isDone = true →
    a = .finish n ∨ ∃ before, s.jobs[n]? = some before ∧ before.isDone = true

theorem State.SameItems.of_jobs {a : Action ι ε} (hjobs : t.jobs = s.jobs)
    (hitems : t.dispatcher.items = s.dispatcher.items) : s.SameItems t a where
  items := hitems
  jobs := by rw [hjobs]
  done := fun n job hjob hdone => Or.inr ⟨job, hjobs ▸ hjob, hdone⟩

theorem State.SameItems.of_setJob {a : Action ι ε} {n : ℕ} {job after : Job ι}
    (hjob : s.jobs[n]? = some job) (hjobs : t.jobs = s.jobs.set n after)
    (hitem : after.item = job.item) (hitems : t.dispatcher.items = s.dispatcher.items)
    (hdone : after.isDone = true → a = .finish n ∨ job.isDone = true) : s.SameItems t a := by
  refine ⟨hitems, ?_, ?_⟩
  · rw [hjobs, List.map_set, hitem]
    exact Machine.set_of_getElem? (by rw [List.getElem?_map, hjob]; rfl)
  · intro m other hother hother'
    rw [hjobs] at hother
    rcases Machine.getElem?_set_cases hother with ⟨rfl, rfl⟩ | ⟨-, hold⟩
    · exact (hdone hother').imp_right fun hbefore => ⟨job, hjob, hbefore⟩
    · exact Or.inr ⟨other, hold, hother'⟩

theorem LifeInv.sameItems_controlStep (h : LifeInv s) {a : Action ι ε}
    (hstep : s.controlStep a = some t) : s.SameItems t a := by
  have hnone : ∀ p, s.control = p → p.dispatches = false → [] = s.dispatcher.items := by
    intro p hp hidle
    exact (DispatcherPoint.isIdle_of_not_isLive (h.idle (hp ▸ hidle))).2.symm
  unfold State.controlStep at hstep
  split at hstep
  · split_ifs at hstep <;> cases hstep <;> exact .of_jobs rfl rfl
  · split_ifs at hstep with hstarting
    cases hstep
    exact .of_jobs rfl (hnone _ hstarting rfl)
  · split_ifs at hstep <;> cases hstep <;> exact .of_jobs rfl rfl
  · split_ifs at hstep
    cases hstep
    exact .of_jobs rfl rfl
  · split_ifs at hstep
    cases hstep
    exact .of_jobs rfl rfl
  · split_ifs at hstep with hjoined
    cases hstep
    exact .of_jobs rfl (hnone _ hjoined.1 rfl)
  · cases hstep

theorem State.sameItems_workerStep {n : ℕ} {job : Job ι} (hjob : s.jobs[n]? = some job)
    {a : Action ι ε} (ha : ∀ m, a = .finish m → m = n) (hstep : s.workerStep c n job a = some t) :
    s.SameItems t a := by
  unfold State.workerStep at hstep
  split at hstep
  · split_ifs at hstep
    cases hstep
    exact .of_setJob hjob rfl rfl rfl nofun
  · split_ifs at hstep <;> cases hstep <;>
      exact .of_setJob hjob rfl rfl rfl fun _ => Or.inl (by rw [ha _ rfl])
  · split_ifs at hstep with hcalling
    cases hstep
    exact .of_setJob hjob rfl rfl rfl fun _ => Or.inr (by simp [Job.isDone, hcalling])
  · cases hstep

theorem State.sameItems_dispatcherStep {a : Action ι ε} (hclaim : ∀ items, a ≠ .claim items)
    (hsubmit : a ≠ .submit) (hstep : s.dispatcherStep c a = some t) : s.SameItems t a := by
  unfold State.dispatcherStep at hstep
  split at hstep
  · rename_i hp
    cases hstep
    refine .of_jobs rfl ?_
    rw [hp]
    cases s.stopEvent <;> rfl
  · rename_i hp
    cases hstep
    exact .of_jobs rfl (by rw [hp]; rfl)
  · exact absurd rfl (hclaim _)
  · rename_i error _ hp
    cases hstep
    refine .of_jobs rfl ?_
    rw [hp]
    dsimp only
    cases c.claimCaught error <;> rfl
  · exact absurd rfl hsubmit
  · rename_i hp
    cases hstep
    exact .of_jobs rfl (by rw [hp]; rfl)
  · rename_i n items hp
    split at hstep
    · cases hstep
    · rename_i job hjob
      split_ifs at hstep <;> cases hstep
      · exact .of_jobs rfl (by rw [hp]; rfl)
      · refine .of_setJob hjob rfl rfl ?_ Or.inr
        rw [hp]
        exact items_afterSubmit items
  · rename_i n items hp
    cases hstep
    refine .of_jobs rfl ?_
    rw [hp]
    exact items_afterSubmit items
  · rename_i hp
    cases hstep
    exact .of_jobs rfl (by rw [hp]; rfl)
  · cases hstep

theorem Inv.sameItems (h : Inv c s) {a : Action ι ε} (hclaim : ∀ items, a ≠ .claim items)
    (hsubmit : a ≠ .submit) (hstep : s.step c a = some t) : s.SameItems t a := by
  rcases State.step_cases hstep with hstep | ⟨n, job, hjob, ha, hstep⟩ | hstep | hstep
  · exact h.life.sameItems_controlStep hstep
  · exact State.sameItems_workerStep hjob ha hstep
  · obtain ⟨ht, -⟩ := State.heartbeatStep_frame hstep
    rw [ht]
    exact .of_jobs rfl rfl
  · exact State.sameItems_dispatcherStep hclaim hsubmit hstep

/-! ## What the pool takes on -/

/-- Counting the members of a list by their places. -/
theorem length_places {β : Type*} (p : β → Bool) (l : List β) :
    ((List.range l.length).filter fun n => l[n]?.any p).length = l.countP p := by
  induction l using List.reverseRecOn with
  | nil => rfl
  | append_singleton l a ih =>
    have hinit : (List.range l.length).filter (fun n => (l ++ [a])[n]?.any p) =
        (List.range l.length).filter fun n => l[n]?.any p := by
      apply List.filter_congr
      intro n hn
      rw [List.getElem?_append_left (List.mem_range.mp hn)]
    rw [List.length_append, List.length_singleton, List.range_succ, List.filter_append, hinit,
      List.length_append, ih, List.countP_append, List.filter_singleton, List.countP_singleton,
      List.getElem?_append_right le_rfl, Nat.sub_self]
    cases hp : p a <;> simp [hp]

/-- A list counts no more than another one that has a counted member wherever it has one. -/
theorem countP_le_of_places {β γ : Type*} {p : β → Bool} {q : γ → Bool} {l : List β} {m : List γ}
    (hlength : l.length = m.length)
    (h : ∀ (n : ℕ) (b : β), l[n]? = some b → p b = true → ∃ c, m[n]? = some c ∧ q c = true) :
    l.countP p ≤ m.countP q := by
  rw [← length_places p l, ← length_places q m, hlength]
  apply List.Sublist.length_le
  apply List.monotone_filter_right
  intro n hn
  obtain ⟨b, hb, hp⟩ := (Option.any_eq_true _ _).mp hn
  exact (Option.any_eq_true _ _).mpr (h n b hb hp)

/-- The future that the dispatcher is about to count. -/
def DispatcherPoint.inHand : DispatcherPoint ι → List ℕ
  | .counting n _ => [n]
  | _ => []

theorem DispatcherPoint.mem_inHand {p : DispatcherPoint ι} {n : ℕ} :
    n ∈ p.inHand ↔ p.counts n = true := by
  cases p <;> simp [DispatcherPoint.inHand, DispatcherPoint.counts, eq_comm]

/-- The items that have been claimed and are not over never outnumber the workers. -/
theorem PoolInv.unfinished_le (h : PoolInv c s) :
    s.jobs.countP (fun job => !job.isOver) + s.dispatcher.items.length ≤ c.maxWorkers := by
  have hsubset : (List.range s.jobs.length).filter (fun n => s.jobs[n]?.any fun job => !job.isOver) ⊆
      s.futures ++ s.dispatcher.inHand := by
    intro n hn
    obtain ⟨job, hjob, hover⟩ := (Option.any_eq_true _ _).mp (List.mem_filter.mp hn).2
    rw [List.mem_append, DispatcherPoint.mem_inHand]
    exact (h.jobs n job hjob).counted (by simpa using hover)
  have hlength := (List.subperm_of_subset (List.nodup_range.filter _) hsubset).length_le
  rw [length_places, List.length_append] at hlength
  have hroom := h.room
  have hreserved : (s.dispatcher.inHand.length + s.dispatcher.items.length : ℤ) ≤
      s.dispatcher.reserved := by
    cases hp : s.dispatcher with
    | claiming room => exact h.claims room hp
    | counting n items => exact (add_comm _ _).le
    | _ => exact (zero_add _).le
  omega

/-- What the dispatcher asks a claim for. -/
theorem PoolInv.room_bounds (h : PoolInv c s) {room : ℤ} (hp : s.dispatcher = .claiming room) :
    0 ≤ room ∧ room ≤ c.maxWorkers := by
  have hroom := h.room
  rw [hp, DispatcherPoint.reserved] at hroom
  exact ⟨h.claims room hp, by omega⟩

/-- Once the pool has been stopped, nothing that was ever claimed is unfinished or counted. -/
theorem Inv.drained (h : Inv c s) (hstopped : s.control = .stopped) :
    (∀ job ∈ s.jobs, job.isOver = true) ∧ s.dispatcher.items = [] ∧ s.futures = [] := by
  have hover := h.life.drained (by rw [hstopped]; rfl)
  have hidle := DispatcherPoint.isIdle_of_not_isLive (h.life.idle (by rw [hstopped]; rfl))
  refine ⟨hover, hidle.2, List.eq_nil_iff_forall_not_mem.mpr fun n hn => ?_⟩
  have hjob := List.getElem?_eq_getElem (h.pool.known n hn)
  exact (h.pool.settled hidle.1 n _ hjob).1 (hover _ (List.getElem_mem _)) hn

/-- The heartbeat runs whenever an item is claimed and not over, unless an error has ended it. -/
theorem Inv.beats (h : Inv c s)
    (hwork : (∃ job ∈ s.jobs, job.isOver = false) ∨ s.dispatcher.items ≠ []) :
    s.heartbeat = .waiting ∨ s.heartbeat = .renewing ∨ s.heartbeat = .died := by
  have hundrained : s.control.isDrained = false := by
    by_contra hdrained
    rw [Bool.not_eq_false] at hdrained
    rcases hwork with ⟨job, hjob, hover⟩ | hitems
    · exact absurd (hover.symm.trans (h.life.drained hdrained job hjob)) (by decide)
    · have hidle : s.control.dispatches = false := by
        cases hcontrol : s.control <;> first | rfl | rw [hcontrol] at hdrained; cases hdrained
      exact hitems (DispatcherPoint.isIdle_of_not_isLive (h.life.idle hidle)).2
  have hbeats : s.control.beats = true := by
    cases hcontrol : s.control <;> first | rfl | rw [hcontrol] at hundrained; cases hundrained
  obtain ⟨-, habsent, hended⟩ := h.life.beats hbeats
  cases hp : s.heartbeat <;> simp_all

/-! ## Items that run -/

section Runs

variable [DecidableEq ι]

/-- How many workers run a job of the item. -/
def State.runs (s : State ι) (item : ι) : ℕ :=
  s.jobs.countP fun job => job.stage = .running && job.item = item

theorem State.runs_of_jobs (hjobs : t.jobs = s.jobs) (item : ι) : t.runs item = s.runs item := by
  rw [State.runs, State.runs, hjobs]

/-- One job moves, and nothing but its stage counts. -/
theorem State.runs_setJob {n : ℕ} {job after : Job ι} (hjob : s.jobs[n]? = some job)
    (hjobs : t.jobs = s.jobs.set n after) (hitem : after.item = job.item) (item : ι) :
    t.runs item + (if job.stage = .running ∧ job.item = item then 1 else 0) =
      s.runs item + if after.stage = .running ∧ job.item = item then 1 else 0 := by
  have hcount := Machine.countP_set_add
    (fun job : Job ι => decide (job.stage = .running) && decide (job.item = item)) after hjob
  simp only [hitem, Bool.and_eq_true, decide_eq_true_eq] at hcount
  rw [State.runs, State.runs, hjobs]
  exact hcount

theorem State.runs_begin {n : ℕ} (hstep : s.step c (.begin n : Action ι ε) = some t) :
    ∃ job, s.jobs[n]? = some job ∧
      ∀ item, t.runs item = s.runs item + if job.item = item then 1 else 0 := by
  simp only [State.step] at hstep
  split at hstep
  · cases hstep
  · rename_i job hjob
    simp only [State.workerStep] at hstep
    split_ifs at hstep with hqueued
    cases hstep
    refine ⟨job, hjob, fun item => ?_⟩
    have hcount := State.runs_setJob (t := s.setJob n { job with stage := .running }) hjob rfl rfl item
    simpa [hqueued.1] using hcount

theorem State.runs_finish {n : ℕ} (hstep : s.step c (.finish n : Action ι ε) = some t) :
    ∃ job, s.jobs[n]? = some job ∧
      ∀ item, t.runs item + (if job.item = item then 1 else 0) = s.runs item := by
  simp only [State.step] at hstep
  split at hstep
  · cases hstep
  · rename_i job hjob
    obtain ⟨hrunning, stage, hstage, hjobs⟩ : job.stage = .running ∧
        ∃ stage, stage ≠ .running ∧ t.jobs = s.jobs.set n { job with stage } := by
      simp only [State.workerStep] at hstep
      split_ifs at hstep with hrunning hregistered
      · cases hstep
        exact ⟨hrunning, .callingBack, nofun, rfl⟩
      · cases hstep
        exact ⟨hrunning, .over, nofun, rfl⟩
    refine ⟨job, hjob, fun item => ?_⟩
    have hcount := State.runs_setJob hjob hjobs rfl item
    simpa [hrunning, hstage] using hcount

/-- Only workers that begin or finish a job change which items run. -/
theorem State.runs_step {a : Action ι ε} (hbegin : ∀ n, a ≠ .begin n) (hfinish : ∀ n, a ≠ .finish n)
    (hstep : s.step c a = some t) (item : ι) : t.runs item = s.runs item := by
  rcases State.step_cases hstep with hstep | ⟨n, job, hjob, -, hstep⟩ | hstep | hstep
  · apply State.runs_of_jobs
    unfold State.controlStep at hstep
    split at hstep
    case h_7 => cases hstep
    all_goals
      split_ifs at hstep <;> cases hstep <;> rfl
  · unfold State.workerStep at hstep
    split at hstep
    · exact absurd rfl (hbegin _)
    · exact absurd rfl (hfinish _)
    · split_ifs at hstep with hcalling
      obtain ⟨⟩ := hstep
      have hcount := State.runs_setJob (t := { s.setJob n { job with stage := .over } with
        futures := s.futures.erase n }) hjob rfl rfl item
      simpa [hcalling] using hcount
    · cases hstep
  · rw [(State.heartbeatStep_frame hstep).1]
    rfl
  · unfold State.dispatcherStep at hstep
    split at hstep
    case h_5 =>
      obtain ⟨⟩ := hstep
      simp [State.runs]
    case h_7 =>
      rename_i n items _ _
      split at hstep
      · cases hstep
      · rename_i job hjob
        split_ifs at hstep <;> obtain ⟨⟩ := hstep
        · rfl
        · have hcount := State.runs_setJob (t := { s.setJob n { job with registered := true } with
            dispatcher := afterSubmit items }) hjob rfl rfl item
          exact Nat.add_right_cancel hcount
    case h_10 => cases hstep
    all_goals
      obtain ⟨⟩ := hstep
      rfl

end Runs

/-! ## Errors that end a thread -/

/-- The dispatcher of a started pool has died. -/
def State.Halted (s : State ι) : Prop := s.control = .started ∧ s.dispatcher = .died

/-- Until it is shut down, a pool whose dispatcher has died takes on nothing more. -/
theorem State.Halted.step (h : s.Halted) {a : Action ι ε} (ha : a ≠ .shutdown)
    (hstep : s.step c a = some t) :
    t.Halted ∧ t.jobs.map (·.item) = s.jobs.map (·.item) := by
  obtain ⟨hcontrol, hdied⟩ := h
  rcases State.step_cases hstep with hstep | ⟨n, job, hjob, -, hstep⟩ | hstep | hstep
  · have ht : t = s := by
      unfold State.controlStep at hstep
      split at hstep <;> simp_all
    rw [ht]
    exact ⟨⟨hcontrol, hdied⟩, rfl⟩
  · obtain ⟨-, hdispatcher, hcontrol', -, -, -, stage, hjobs⟩ := State.workerStep_frame hstep
    refine ⟨⟨hcontrol'.trans hcontrol, hdispatcher.trans hdied⟩, ?_⟩
    rw [hjobs, List.map_set]
    exact Machine.set_of_getElem? (by rw [List.getElem?_map, hjob]; rfl)
  · obtain ⟨ht, -⟩ := State.heartbeatStep_frame hstep
    rw [ht]
    exact ⟨⟨hcontrol, hdied⟩, rfl⟩
  · obtain ⟨hlive, -⟩ := State.dispatcherStep_frame hstep
    rw [hdied] at hlive
    cases hlive

theorem State.dispatcher_survives (h : s.dispatcher ≠ .died) {a : Action ι ε}
    (hcaught : ∀ error, a = .claimRaises error → c.claimCaught error = true)
    (hstep : s.step c a = some t) : t.dispatcher ≠ .died := by
  rcases State.step_cases hstep with hstep | ⟨n, job, hjob, -, hstep⟩ | hstep | hstep
  · unfold State.controlStep at hstep
    split at hstep
    case h_7 => cases hstep
    all_goals
      split_ifs at hstep <;> cases hstep <;> simp [h]
  · rw [(State.workerStep_frame hstep).2.1]
    exact h
  · rw [(State.heartbeatStep_frame hstep).1]
    exact h
  · obtain ⟨-, -, -, -, -, hleads⟩ := State.dispatcherStep_frame hstep
    intro hp
    rcases hleads with hlive | ⟨hended, -⟩ | ⟨-, error, rfl, hescapes⟩
    · rw [hp] at hlive
      cases hlive
    · rw [hp] at hended
      cases hended
    · exact absurd ((hcaught error rfl).symm.trans hescapes) (by decide)

theorem State.heartbeat_survives (h : s.heartbeat ≠ .died) {a : Action ι ε}
    (hcaught : ∀ error, a = .renewRaises error → c.renewCaught error = true)
    (hstep : s.step c a = some t) : t.heartbeat ≠ .died := by
  rcases State.step_cases hstep with hstep | ⟨n, job, hjob, -, hstep⟩ | hstep | hstep
  · unfold State.controlStep at hstep
    split at hstep
    case h_7 => cases hstep
    all_goals
      split_ifs at hstep <;> cases hstep <;> simp [h]
  · rw [(State.workerStep_frame hstep).2.2.2.1]
    exact h
  · intro hp
    obtain ⟨error, rfl, hescapes⟩ := (State.heartbeatStep_frame hstep).2.2.2 hp
    exact absurd ((hcaught error rfl).symm.trans hescapes) (by decide)
  · rw [(State.dispatcherStep_frame hstep).2.2.1]
    exact h

/-- The dispatcher of a started pool goes on unless an error has ended it. -/
theorem Inv.isLive (h : Inv c s) (hdied : s.dispatcher ≠ .died) (hstarted : s.control = .started) :
    s.dispatcher.isLive = true := by
  obtain ⟨habsent, hended⟩ := h.life.works hstarted
  cases hp : s.dispatcher <;> first | rfl | exact absurd hp ‹_›

end ConnectionTopology.WorkerPool
