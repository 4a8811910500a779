import ConnectionTopology.Scheduler.WantedJobs

/-!
# The schedule of the leader

The leader's jobs match the database as long as the leader itself serves the requests,
requests about one device do not overlap, and a new leader brings no stale jobs along.
A request served elsewhere changes the database and not the leader's jobs.
-/
namespace ConnectionTopology

def OpenRequest.deviceIds : OpenRequest → List ℕ
  | .syncing _ devices => devices.map (·.id)
  | .deleting _ deviceId => [deviceId]

def OpenRequest.process : OpenRequest → ℕ
  | .syncing process _ | .deleting process _ => process

def OpenRequest.isDeleting : OpenRequest → Bool
  | .syncing _ _ => false
  | .deleting _ _ => true

/-- The process leads, or nobody does. -/
def WebState.mayServe (s : WebState) (process : ℕ) : Bool :=
  s.leader = none || s.leader = some process

/-- No request in progress is about the device. -/
def WebState.deviceFree (s : WebState) (deviceId : ℕ) : Bool :=
  s.requests.all fun o => deviceId ∉ o.deviceIds

/-- The leader serves the request, which is about devices of no other request in
progress; and a process becomes leader while no deletion is in progress and with jobs of
scheduled devices only. -/
def servedByLeader (s : WebState) : WebAction → Bool
  | .request process request =>
    s.mayServe process && (request.deviceIds s.db).all s.deviceFree
  | .startDelete process deviceId => s.mayServe process && s.deviceFree deviceId
  | .becomeLeader process =>
    (s.requests.all fun o => !o.isDeleting) &&
      (s.schedulers process).jobs.all fun job => (wantedJob s.db.devices job.1).isSome
  | _ => true

/-- The invariant: only jobs that the leader has still to synchronize may differ. -/
structure ScheduleOk (s : WebState) : Prop where
  devices : DevicesOk s.db
  running : ∀ p, (s.schedulers p).running = true ↔ s.leader = some p
  drawn : ∀ o ∈ s.requests, ∀ id ∈ o.deviceIds, id < s.db.sequences.devices
  synced : ∀ p ds, .syncing p ds ∈ s.requests → ∀ d ∈ ds, d.job = wantedJob s.db.devices d.id
  deleting : ∀ p d, .deleting p d ∈ s.requests →
    s.leader = none ∨ (s.leader = some p ∧ (s.schedulers p).job? d = none)
  apart : ∀ (n m p d : ℕ) (o : OpenRequest), n ≠ m → s.requests[n]? = some (.deleting p d) →
    s.requests[m]? = some o → d ∉ o.deviceIds
  jobs : ∀ p, s.leader = some p → ∀ id,
    (s.schedulers p).job? id = wantedJob s.db.devices id ∨
      ∃ o ∈ s.requests, o.process = p ∧ id ∈ o.deviceIds

theorem deviceFree_iff {s : WebState} {deviceId : ℕ} :
    s.deviceFree deviceId = true ↔ ∀ o ∈ s.requests, deviceId ∉ o.deviceIds := by
  simp [WebState.deviceFree]

theorem mayServe_iff {s : WebState} {process : ℕ} :
    s.mayServe process = true ↔ s.leader = none ∨ s.leader = some process := by
  simp [WebState.mayServe]

/-! ## Requests -/

theorem ScheduleOk.request {s : WebState} (h : ScheduleOk s) {process : ℕ} {written : List ℕ}
    {devices : List Device} {db : Database} (hchanges : JobChanges written s.db db devices)
    (hserve : s.leader = none ∨ s.leader = some process)
    (hfree : ∀ id ∈ written, ∀ o ∈ s.requests, id ∉ o.deviceIds) :
    ScheduleOk { s with db := db, requests := s.requests ++ [.syncing process devices] } := by
  -- devices that are waiting for another request are not reported
  have hother : ∀ o ∈ s.requests, ∀ id ∈ o.deviceIds, id ∉ devices.map (·.id) := by
    intro o ho id hid hmem
    obtain ⟨d, hd, rfl⟩ := List.mem_map.mp hmem
    rcases hchanges.reported d hd with hwritten | hnew
    · exact hfree d.id hwritten o ho hid
    · have := h.drawn o ho d.id hid
      omega
  refine ⟨hchanges.ok, h.running, ?_, ?_, ?_, ?_, ?_⟩
  · intro o ho id hid
    rcases List.mem_append.mp ho with ho | ho
    · exact lt_of_lt_of_le (h.drawn o ho id hid) hchanges.sequence
    · rw [List.mem_singleton.mp ho] at hid
      obtain ⟨d, hd, rfl⟩ := List.mem_map.mp hid
      exact hchanges.drawn d hd
  · intro p ds hmem d hd
    rcases List.mem_append.mp hmem with hmem | hmem
    · rw [h.synced p ds hmem d hd]
      exact (hchanges.changed d.id (hother _ hmem d.id (List.mem_map_of_mem hd))).symm
    · cases List.mem_singleton.mp hmem
      exact hchanges.synced d hd
  · intro p d hmem
    rcases List.mem_append.mp hmem with hmem | hmem
    · exact h.deleting p d hmem
    · cases List.mem_singleton.mp hmem
  · intro n m p d o hnm hn hm
    rcases Machine.getElem?_append_cases hn with hn | ⟨-, hn⟩
    · rcases Machine.getElem?_append_cases hm with hm | ⟨-, rfl⟩
      · exact h.apart n m p d o hnm hn hm
      · exact hother _ (List.mem_of_getElem? hn) d (List.mem_singleton.mpr rfl)
    · cases hn
  · intro p hp id
    by_cases hid : id ∈ devices.map (·.id)
    · right
      have hprocess : process = p := by
        rcases hserve with hnone | hsome
        · rw [show s.leader = some p from hp] at hnone
          cases hnone
        · exact Option.some.inj (hsome.symm.trans hp)
      exact ⟨_, List.mem_append_right _ (List.mem_singleton.mpr rfl), hprocess, hid⟩
    · rcases h.jobs p hp id with hjob | ⟨o, ho, hrest⟩
      · exact Or.inl (hjob.trans (hchanges.changed id hid).symm)
      · exact Or.inr ⟨o, List.mem_append_left _ ho, hrest⟩

theorem ScheduleOk.sync {s : WebState} (h : ScheduleOk s) {n process : ℕ} {device : Device}
    {rest : List Device} (hn : s.requests[n]? = some (.syncing process (device :: rest))) :
    ScheduleOk { s.updateScheduler process (·.syncDevice device) with
      requests := s.requests.set n (.syncing process rest) } := by
  have hmem := List.mem_of_getElem? hn
  have hlt : n < s.requests.length := (List.getElem?_eq_some_iff.mp hn).1
  have hdevice : device.job = wantedJob s.db.devices device.id :=
    h.synced process _ hmem device (by simp)
  refine ⟨h.devices, ?_, ?_, ?_, ?_, ?_, ?_⟩
  · intro p
    simp only [WebState.updateScheduler, Function.update_apply]
    split_ifs with hp
    · rw [hp, Scheduler.running_syncDevice]
      exact h.running process
    · exact h.running p
  · intro o ho id hid
    rcases Machine.mem_set_cases ho with rfl | ⟨m, -, hm⟩
    · exact h.drawn _ hmem id (List.mem_cons_of_mem _ hid)
    · exact h.drawn o (List.mem_of_getElem? hm) id hid
  · intro p ds hds d hd
    rcases Machine.mem_set_cases hds with heq | ⟨m, -, hm⟩
    · cases heq
      exact h.synced process _ hmem d (List.mem_cons_of_mem _ hd)
    · exact h.synced p ds (List.mem_of_getElem? hm) d hd
  · intro p d hd
    rcases Machine.mem_set_cases hd with heq | ⟨m, hmn, hm⟩
    · cases heq
    · rcases h.deleting p d (List.mem_of_getElem? hm) with hnone | ⟨hleader, hjob⟩
      · exact Or.inl hnone
      · refine Or.inr ⟨hleader, ?_⟩
        simp only [WebState.updateScheduler, Function.update_apply]
        split_ifs with hp
        · have hne : d ≠ device.id := by
            rintro rfl
            exact h.apart m n p device.id _ hmn hm hn (by simp [OpenRequest.deviceIds])
          rw [Scheduler.job?_syncDevice, if_neg hne, ← hp]
          exact hjob
        · exact hjob
  · intro k m p d o hkm hk hm
    rcases Machine.getElem?_set_cases hk with ⟨-, heq⟩ | ⟨-, hk'⟩
    · cases heq
    · rcases Machine.getElem?_set_cases hm with ⟨rfl, rfl⟩ | ⟨-, hm'⟩
      · intro hd
        exact h.apart k m p d _ hkm hk' hn (List.mem_cons_of_mem _ hd)
      · exact h.apart k m p d o hkm hk' hm'
  · intro p hp id
    have hkeep : ∀ o ∈ s.requests, o.process = p → id ∈ o.deviceIds →
        (id = device.id ∧ process = p) ∨
          ∃ o ∈ s.requests.set n (.syncing process rest), o.process = p ∧ id ∈ o.deviceIds := by
      intro o ho hprocess hid
      obtain ⟨m, hm⟩ := List.mem_iff_getElem?.mp ho
      by_cases hmn : m = n
      · rw [hmn, hn] at hm
        cases hm
        rcases List.mem_cons.mp hid with hid | hid
        · exact Or.inl ⟨hid, hprocess⟩
        · exact Or.inr ⟨_, List.mem_set hlt _, hprocess, hid⟩
      · exact Or.inr ⟨o, Machine.mem_set_of_ne hmn hm, hprocess, hid⟩
    simp only [WebState.updateScheduler, Function.update_apply]
    by_cases hpp : p = process
    · subst hpp
      rw [if_pos rfl, Scheduler.job?_syncDevice]
      by_cases hid : id = device.id
      · rw [if_pos hid, hid]
        exact Or.inl hdevice
      · rw [if_neg hid]
        rcases h.jobs p hp id with hjob | ⟨o, ho, hprocess, hmemId⟩
        · exact Or.inl hjob
        · exact Or.inr ((hkeep o ho hprocess hmemId).resolve_left fun he => hid he.1)
    · rw [if_neg hpp]
      rcases h.jobs p hp id with hjob | ⟨o, ho, hprocess, hmemId⟩
      · exact Or.inl hjob
      · exact Or.inr ((hkeep o ho hprocess hmemId).resolve_left fun he => hpp he.2.symm)

theorem ScheduleOk.startDelete {s : WebState} (h : ScheduleOk s) {process deviceId : ℕ}
    (hexists : ∃ d ∈ s.db.devices, d.id = deviceId)
    (hserve : s.leader = none ∨ s.leader = some process)
    (hfree : ∀ o ∈ s.requests, deviceId ∉ o.deviceIds) :
    ScheduleOk { s.updateScheduler process (·.removeDevice deviceId) with
      requests := s.requests ++ [.deleting process deviceId] } := by
  have hjob : ∀ p id, ((s.updateScheduler process (·.removeDevice deviceId)).schedulers p).job? id =
      if p = process ∧ id = deviceId then none else (s.schedulers p).job? id := by
    intro p id
    simp only [WebState.updateScheduler, Function.update_apply]
    by_cases hp : p = process
    · subst hp
      simp [Scheduler.job?_removeDevice]
    · simp [hp]
  refine ⟨h.devices, ?_, ?_, ?_, ?_, ?_, ?_⟩
  · intro p
    simp only [WebState.updateScheduler, Function.update_apply]
    split_ifs with hp
    · rw [hp]
      exact h.running process
    · exact h.running p
  · intro o ho id hid
    rcases List.mem_append.mp ho with ho | ho
    · exact h.drawn o ho id hid
    · rw [List.mem_singleton.mp ho] at hid
      obtain ⟨d, hd, rfl⟩ := hexists
      rw [List.mem_singleton.mp hid]
      exact h.devices.fresh d hd
  · intro p ds hmem
    rcases List.mem_append.mp hmem with hmem | hmem
    · exact h.synced p ds hmem
    · cases List.mem_singleton.mp hmem
  · intro p d hmem
    dsimp only
    rw [hjob]
    rcases List.mem_append.mp hmem with hmem | hmem
    · rcases h.deleting p d hmem with hnone | ⟨hleader, hnone⟩
      · exact Or.inl hnone
      · refine Or.inr ⟨hleader, ?_⟩
        rw [hnone]
        split_ifs <;> rfl
    · cases List.mem_singleton.mp hmem
      rcases hserve with hnone | hleader
      · exact Or.inl hnone
      · exact Or.inr ⟨hleader, if_pos ⟨rfl, rfl⟩⟩
  · intro n m p d o hnm hn hm
    rcases Machine.getElem?_append_cases hn with hn' | ⟨hlast, hn'⟩
    · rcases Machine.getElem?_append_cases hm with hm' | ⟨-, rfl⟩
      · exact h.apart n m p d o hnm hn' hm'
      · intro hd
        rw [← List.mem_singleton.mp hd] at hfree
        exact hfree _ (List.mem_of_getElem? hn') (List.mem_singleton.mpr rfl)
    · cases hn'
      rcases Machine.getElem?_append_cases hm with hm' | ⟨hlast', -⟩
      · exact hfree o (List.mem_of_getElem? hm')
      · exact absurd (hlast.trans hlast'.symm) hnm
  · intro p hp id
    dsimp only
    rw [hjob]
    split_ifs with hgone
    · obtain ⟨rfl, rfl⟩ := hgone
      exact Or.inr ⟨_, List.mem_append_right _ (List.mem_singleton.mpr rfl), rfl,
        List.mem_singleton.mpr rfl⟩
    · rcases h.jobs p hp id with hsame | ⟨o, ho, hrest⟩
      · exact Or.inl hsame
      · exact Or.inr ⟨o, List.mem_append_left _ ho, hrest⟩

theorem wantedJob_filter {devices : List Device} {deviceId id : ℕ} (h : id ≠ deviceId) :
    wantedJob (devices.filter (·.id ≠ deviceId)) id = wantedJob devices id := by
  unfold wantedJob
  rw [List.find?_filter]
  congr 1
  apply List.find?_congr
  intro d _
  by_cases hd : d.id = id
  · simp [hd, h]
  · simp [hd]

theorem ScheduleOk.finishDelete {s : WebState} (h : ScheduleOk s) {n process deviceId : ℕ}
    {wall : Timestamp} {db : Database} (hn : s.requests[n]? = some (.deleting process deviceId))
    (hdelete : deleteDevice deviceId wall s.db = .ok db) :
    ScheduleOk { s with db := db, requests := s.requests.set n (.syncing process []) } := by
  obtain ⟨hdevices, -, hrows, hseq⟩ := deleteDevice_ok hdelete
  have hmem := List.mem_of_getElem? hn
  have hgone : wantedJob db.devices deviceId = none := by
    apply wantedJob_eq_none
    rw [hdevices]
    intro hid
    obtain ⟨d, hd, hid⟩ := List.mem_map.mp hid
    exact absurd hid (by simpa using (List.mem_filter.mp hd).2)
  have hsame : ∀ id, id ≠ deviceId → wantedJob db.devices id = wantedJob s.db.devices id := by
    intro id hid
    rw [hdevices]
    exact wantedJob_filter hid
  have hother : ∀ {m : ℕ} {o : OpenRequest}, m ≠ n → s.requests[m]? = some o →
      deviceId ∉ o.deviceIds := by
    intro m o hmn hm
    exact h.apart n m process deviceId o hmn.symm hn hm
  refine ⟨⟨?_, ?_, ?_⟩, h.running, ?_, ?_, ?_, ?_, ?_⟩
  · rw [hdevices]
    exact h.devices.ids.sublist (List.filter_sublist.map _)
  · rw [hdevices, hseq]
    exact fun d hd => h.devices.fresh d (List.mem_of_mem_filter hd)
  · rw [hseq]
    intro r hr
    have hbatch : r.batchId ∈ s.db.importRowResults.map (·.batchId) := by
      rw [← hrows]
      exact List.mem_map_of_mem hr
    obtain ⟨r', hr', hid⟩ := List.mem_map.mp hbatch
    rw [← hid]
    exact h.devices.batches r' hr'
  · rw [hseq]
    intro o ho id hid
    rcases Machine.mem_set_cases ho with rfl | ⟨m, -, hm⟩
    · cases hid
    · exact h.drawn o (List.mem_of_getElem? hm) id hid
  · intro p ds hds d hd
    rcases Machine.mem_set_cases hds with heq | ⟨m, hmn, hm⟩
    · cases heq
      cases hd
    · have hne : d.id ≠ deviceId := by
        intro he
        apply hother hmn hm
        rw [← he]
        exact List.mem_map_of_mem hd
      rw [hsame d.id hne]
      exact h.synced p ds (List.mem_of_getElem? hm) d hd
  · intro p d hd
    rcases Machine.mem_set_cases hd with heq | ⟨m, -, hm⟩
    · cases heq
    · exact h.deleting p d (List.mem_of_getElem? hm)
  · intro k m p d o hkm hk hm
    rcases Machine.getElem?_set_cases hk with ⟨-, heq⟩ | ⟨-, hk'⟩
    · cases heq
    · rcases Machine.getElem?_set_cases hm with ⟨-, rfl⟩ | ⟨-, hm'⟩
      · exact List.not_mem_nil
      · exact h.apart k m p d o hkm hk' hm'
  · intro p hp id
    by_cases hid : id = deviceId
    · left
      rcases h.deleting process deviceId hmem with hnone | ⟨hleader, hjob⟩
      · rw [show s.leader = some p from hp] at hnone
        cases hnone
      · cases hleader.symm.trans hp
        rw [hid, hgone]
        exact hjob
    · rw [hsame id hid]
      rcases h.jobs p hp id with hjob | ⟨o, ho, hprocess, hmemId⟩
      · exact Or.inl hjob
      · obtain ⟨m, hm⟩ := List.mem_iff_getElem?.mp ho
        by_cases hmn : m = n
        · rw [hmn, hn] at hm
          cases hm
          exact absurd (List.mem_singleton.mp hmemId) hid
        · exact Or.inr ⟨o, Machine.mem_set_of_ne hmn hm, hprocess, hmemId⟩

/-! ## Leadership -/

theorem ScheduleOk.becomeLeader {s : WebState} (h : ScheduleOk s) {process : ℕ}
    (hleader : s.leader = none) (hdeleting : ∀ o ∈ s.requests, o.isDeleting = false)
    (hstale : ∀ job ∈ (s.schedulers process).jobs, (wantedJob s.db.devices job.1).isSome) :
    ScheduleOk { s.updateScheduler process (·.becomeLeader s.db) with leader := some process } := by
  have hstopped : (s.schedulers process).running = false := by
    rw [Bool.eq_false_iff]
    intro hrunning
    rw [(h.running process).mp hrunning] at hleader
    cases hleader
  set scheduled := s.db.devices.filter fun d => d.scheduledEnabled && d.collectionEnabled
  have hstart : (s.schedulers process).becomeLeader s.db =
      scheduled.foldl Scheduler.syncDevice { s.schedulers process with running := true } := by
    rw [Scheduler.becomeLeader, if_neg (by simp [hstopped])]
  have hwanted : ∀ d ∈ scheduled, d.job = wantedJob s.db.devices d.id := by
    intro d hd
    exact (wantedJob_of_mem h.devices.ids (List.mem_of_mem_filter hd)).symm
  refine ⟨h.devices, ?_, h.drawn, h.synced, ?_, h.apart, ?_⟩
  · intro p
    simp only [WebState.updateScheduler, Function.update_apply]
    split_ifs with hp
    · rw [hstart, Scheduler.running_syncAll, hp]
      simp
    · have hne : ¬ process = p := fun he => hp he.symm
      rw [h.running p, hleader]
      simp [hne]
  · intro p d hmem
    exact absurd (hdeleting _ hmem) (by simp [OpenRequest.isDeleting])
  · intro p hp id
    cases hp
    left
    simp only [WebState.updateScheduler, Function.update_self, hstart]
    rw [Scheduler.job?_syncAll hwanted]
    split_ifs with hid
    · rfl
    · -- a job that was pending is wanted, so its device is among the scheduled ones
      cases hjob : (s.schedulers process).job? id with
      | none =>
        refine hjob.trans ?_
        symm
        rw [Option.eq_none_iff_forall_ne_some]
        intro minutes hminutes
        obtain ⟨d, hd, rfl, hs, hc, -⟩ := (wantedJob_eq_some h.devices.ids).mp hminutes
        exact hid (List.mem_map_of_mem (List.mem_filter.mpr ⟨hd, by simp [hs, hc]⟩))
      | some minutes =>
        exfalso
        obtain ⟨job, hfind, -⟩ := Option.map_eq_some_iff.mp hjob
        have hjobId : job.1 = id := by simpa using List.find?_some hfind
        obtain ⟨m, hm⟩ := Option.isSome_iff_exists.mp
          (hstale job (List.mem_of_find?_eq_some hfind))
        rw [hjobId] at hm
        obtain ⟨d, hd, rfl, hs, hc, -⟩ := (wantedJob_eq_some h.devices.ids).mp hm
        exact hid (List.mem_map_of_mem (List.mem_filter.mpr ⟨hd, by simp [hs, hc]⟩))

theorem ScheduleOk.loseLeadership {s : WebState} (h : ScheduleOk s) {process : ℕ}
    (hleader : s.leader = some process) :
    ScheduleOk { s.updateScheduler process Scheduler.loseLeadership with leader := none } := by
  refine ⟨h.devices, ?_, h.drawn, h.synced, fun _ _ _ => Or.inl rfl, h.apart, by simp⟩
  intro p
  simp only [WebState.updateScheduler, Function.update_apply, reduceCtorEq, iff_false,
    Bool.not_eq_true]
  split_ifs with hp
  · simp [Scheduler.loseLeadership, (h.running process).mpr hleader]
  · rw [Bool.eq_false_iff]
    intro hrunning
    have := (h.running p).mp hrunning
    rw [hleader] at this
    exact hp (Option.some.inj this).symm

/-! ## Every run -/

theorem ScheduleOk.step {b : Backend} {s t : WebState} (h : ScheduleOk s) {a : WebAction}
    (hserved : servedByLeader s a) (hstep : s.step b a = some t) : ScheduleOk t := by
  cases a with
  | request process request =>
    have hperform : ∃ devices db, performRequest b s.db request = .ok (devices, db) ∧
        (∀ deviceId wall, request ≠ .deleteDevice deviceId wall) ∧
        t = { s with db := db, requests := s.requests ++ [.syncing process devices] } := by
      cases request with
      | deleteDevice deviceId wall => cases hstep
      | createDevice | updateDevice | addCluster | editCluster | removeCluster | importDevices =>
        simp only [WebState.step] at hstep
        split at hstep
        · cases hstep
        · rename_i devices db hok
          cases hstep
          exact ⟨devices, db, hok, by simp, rfl⟩
    obtain ⟨devices, db, hok, hdelete, rfl⟩ := hperform
    simp only [servedByLeader, Bool.and_eq_true, List.all_eq_true] at hserved
    exact h.request (performRequest_changes h.devices hok hdelete) (mayServe_iff.mp hserved.1)
      fun id hid => deviceFree_iff.mp (hserved.2 id hid)
  | sync n =>
    simp only [WebState.step] at hstep
    split at hstep
    · rename_i hn
      cases hstep
      exact h.sync hn
    · cases hstep
  | startDelete process deviceId =>
    simp only [WebState.step] at hstep
    split_ifs at hstep with hexists
    cases hstep
    simp only [servedByLeader, Bool.and_eq_true] at hserved
    exact h.startDelete (by simpa using hexists) (mayServe_iff.mp hserved.1)
      (deviceFree_iff.mp hserved.2)
  | finishDelete n wall =>
    simp only [WebState.step] at hstep
    split at hstep
    · rename_i hn
      split at hstep
      · cases hstep
      · rename_i hdelete
        cases hstep
        exact h.finishDelete hn hdelete
    · cases hstep
  | becomeLeader process =>
    simp only [WebState.step] at hstep
    split_ifs at hstep with hleader
    cases hstep
    simp only [servedByLeader, Bool.and_eq_true, List.all_eq_true, Bool.not_eq_true'] at hserved
    exact h.becomeLeader hleader hserved.1 hserved.2
  | loseLeadership process =>
    simp only [WebState.step] at hstep
    split_ifs at hstep with hleader
    cases hstep
    exact h.loseLeadership hleader

end ConnectionTopology
