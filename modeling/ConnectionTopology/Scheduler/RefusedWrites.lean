import ConnectionTopology.Scheduler.WantedJobs

/-!
# What a refused write leaves behind

A request is answered with its rows and with the scheduler of its process. Until the commit an
error rolls the rows back, but the scheduler is no part of the transaction: `delete_device`
removes the job before anything else can refuse the deletion. Behind the commit a failing
statement is answered with the same 503, although the rows are written.
-/
namespace ConnectionTopology

/-! ## Requests next to a failing database -/

/-- The rows and the scheduler of the process, if it has one. -/
structure ServerState where
  db : Database
  scheduler : Option Scheduler

/-- The interval of the device's job in this process. -/
def ServerState.job? (state : ServerState) (deviceId : ℕ) : Option ℕ :=
  state.scheduler.bind (·.job? deviceId)

inductive WriteRequest
  | createDevice (payload : DeviceCreate)
  | updateDevice (deviceId : ℕ) (payload : DeviceUpdate)
  | deleteDevice (deviceId : ℕ) (wall : Timestamp)
  | addCluster (payload : ClusterPayload)
  | editCluster (clusterId : ℕ) (payload : ClusterPayload)
  | removeCluster (clusterId : ℕ)
  deriving DecidableEq, Repr

def WriteRequest.request : WriteRequest → Request
  | .createDevice payload => .createDevice payload
  | .updateDevice deviceId payload => .updateDevice deviceId payload
  | .deleteDevice deviceId wall => .deleteDevice deviceId wall
  | .addCluster payload => .addCluster payload
  | .editCluster clusterId payload => .editCluster clusterId payload
  | .removeCluster clusterId => .removeCluster clusterId

/-- Where a handler talks to the database: it loads the row, writes and commits, reads the
answer of the commit, loads the row again, and counts members for its response. -/
inductive DatabaseStage
  | lookup
  | write
  | commitAnswer
  | refresh
  | respond
  deriving DecidableEq, Repr

/-- The database fails at a stage, if the handler gets there. -/
structure DatabaseFault where
  stage : DatabaseStage
  /-- A deadlock or a serialization failure. -/
  conflict : Bool
  deriving DecidableEq, Repr

/-- What `_write_request` makes of the failure. -/
def DatabaseFault.error (fault : DatabaseFault) : ApiError :=
  .http 503 (if fault.conflict then "数据库事务冲突，请重试" else "数据库暂时不可用，请稍后重试")

def failsAt (fault : Option DatabaseFault) (stage : DatabaseStage) : Option ApiError :=
  (fault.filter (·.stage = stage)).map DatabaseFault.error

/-- The transaction of a write that nothing refuses, and the jobs that follow it. -/
def ServerState.write (state : ServerState) (fault : Option DatabaseFault) (refreshes : Bool)
    (db : Database) (jobs : Scheduler → Scheduler) : Option ApiError × ServerState :=
  match failsAt fault .write with
  | some e => (some e, state)
  | none =>
    match (failsAt fault .commitAnswer).or
        (if refreshes then failsAt fault .refresh else none) with
    | some e => (some e, { state with db := db })
    | none => (none, ⟨db, state.scheduler.map jobs⟩)

/-! The handlers of `api.py`: the error, if there is one, and the state afterwards. -/

def serveCreateDevice (b : Backend) (fault : Option DatabaseFault) (p : DeviceCreate)
    (state : ServerState) : Option ApiError × ServerState :=
  match createDevice b p state.db with
  | .error e => (some e, state)
  | .ok (device, db) => state.write fault true db (·.syncDevice device)

/-- The device is loaded outside the guard. -/
def serveUpdateDevice (b : Backend) (fault : Option DatabaseFault) (deviceId : ℕ)
    (p : DeviceUpdate) (state : ServerState) : Option ApiError × ServerState :=
  if p.accepted && (failsAt fault .lookup).isSome then (some .internal, state)
  else
    match updateDevice b deviceId p state.db with
    | .error e => (some e, state)
    | .ok (device, db) => state.write fault true db (·.syncDevice device)

def ServerState.removeJob (state : ServerState) (deviceId : ℕ) : ServerState :=
  { state with scheduler := state.scheduler.map (·.removeDevice deviceId) }

/-- The job is removed in front of everything that may still refuse the deletion. -/
def serveDeleteDevice (fault : Option DatabaseFault) (deviceId : ℕ) (wall : Timestamp)
    (state : ServerState) : Option ApiError × ServerState :=
  match failsAt fault .lookup with
  | some e => (some e, state)
  | none =>
    if state.db.devices.any (·.id = deviceId) then
      match deleteDevice deviceId wall state.db with
      | .error e => (some (.http e.status e.detail), state.removeJob deviceId)
      | .ok db => (state.removeJob deviceId).write fault false db id
    else (some (.http DeleteError.notFound.status DeleteError.notFound.detail), state)

def serveAddCluster (b : Backend) (fault : Option DatabaseFault) (p : ClusterPayload)
    (state : ServerState) : Option ApiError × ServerState :=
  match addCluster b p state.db with
  | .error e => (some e, state)
  | .ok db => state.write fault true db id

/-- The members are counted when their jobs are already synchronized. -/
def serveEditCluster (b : Backend) (fault : Option DatabaseFault) (clusterId : ℕ)
    (p : ClusterPayload) (state : ServerState) : Option ApiError × ServerState :=
  if !p.accepted then (some .validation, state)
  else
    match failsAt fault .lookup with
    | some e => (some e, state)
    | none =>
      match editCluster b clusterId p state.db with
      | .error e => (some e, state)
      | .ok (members, db) =>
        let written := state.write fault true db (members.foldl Scheduler.syncDevice)
        (written.1.or (failsAt fault .respond), written.2)

def serveRemoveCluster (fault : Option DatabaseFault) (clusterId : ℕ) (state : ServerState) :
    Option ApiError × ServerState :=
  match failsAt fault .lookup with
  | some e => (some e, state)
  | none =>
    match removeCluster clusterId state.db with
    | .error e => (some e, state)
    | .ok db => state.write fault false db id

def serve (b : Backend) (fault : Option DatabaseFault) (state : ServerState) :
    WriteRequest → Option ApiError × ServerState
  | .createDevice p => serveCreateDevice b fault p state
  | .updateDevice deviceId p => serveUpdateDevice b fault deviceId p state
  | .deleteDevice deviceId wall => serveDeleteDevice fault deviceId wall state
  | .addCluster p => serveAddCluster b fault p state
  | .editCluster clusterId p => serveEditCluster b fault clusterId p state
  | .removeCluster clusterId => serveRemoveCluster fault clusterId state

@[simp] theorem failsAt_none (stage : DatabaseStage) : failsAt none stage = none := rfl

@[simp] theorem ServerState.write_none (state : ServerState) (refreshes : Bool) (db : Database)
    (jobs : Scheduler → Scheduler) :
    state.write none refreshes db jobs = (none, ⟨db, state.scheduler.map jobs⟩) := by
  cases refreshes <;> rfl

/-- Without a failing database the rows are those of the request's transaction. -/
theorem serve_none (b : Backend) (state : ServerState) (request : WriteRequest) :
    (serve b none state request).1 = (match performRequest b state.db request.request with
        | .error e => some e
        | .ok _ => none) ∧
      some (serve b none state request).2.db = requestStep b state.db request.request := by
  cases request with
  | createDevice p =>
    unfold serve serveCreateDevice WriteRequest.request requestStep performRequest
    dsimp only
    generalize createDevice b p state.db = result
    cases result <;> simp [Except.map]
  | updateDevice deviceId p =>
    unfold serve serveUpdateDevice WriteRequest.request requestStep performRequest
    dsimp only
    generalize updateDevice b deviceId p state.db = result
    cases result <;> simp [Except.map]
  | deleteDevice deviceId wall =>
    unfold serve serveDeleteDevice WriteRequest.request requestStep performRequest
    dsimp only [failsAt_none]
    split_ifs with hexists
    · generalize deleteDevice deviceId wall state.db = result
      cases result <;> simp [ServerState.removeJob]
    · have hrefused : deleteDevice deviceId wall state.db = .error .notFound := if_neg hexists
      rw [hrefused]
      exact ⟨rfl, rfl⟩
  | addCluster p =>
    unfold serve serveAddCluster WriteRequest.request requestStep performRequest
    dsimp only
    generalize addCluster b p state.db = result
    cases result <;> simp [Except.map]
  | editCluster clusterId p =>
    unfold serve serveEditCluster WriteRequest.request requestStep performRequest
    dsimp only [failsAt_none]
    split_ifs with haccepted
    · have hrefused : editCluster b clusterId p state.db = .error .validation := if_pos haccepted
      rw [hrefused]
      exact ⟨rfl, rfl⟩
    · generalize editCluster b clusterId p state.db = result
      cases result <;> simp
  | removeCluster clusterId =>
    unfold serve serveRemoveCluster WriteRequest.request requestStep performRequest
    dsimp only [failsAt_none]
    generalize removeCluster clusterId state.db = result
    cases result <;> simp [Except.map]

/-! ## What may be left behind -/

/-- The rows and the jobs of the process are as before. -/
def Unchanged (before after : ServerState) : Prop :=
  after.db = before.db ∧ ∀ deviceId, after.job? deviceId = before.job? deviceId

/-- Nothing in the request or in the stored rows speaks against it. -/
def Accepted (b : Backend) (db : Database) (request : WriteRequest) : Prop :=
  ∃ r, performRequest b db request.request = .ok r

/-- The database fails when the commit is already carried out. -/
def failsBehindCommit (fault : Option DatabaseFault) (refreshes : Bool) : Prop :=
  (failsAt fault .commitAnswer).isSome ∨ (refreshes = true ∧ (failsAt fault .refresh).isSome)

/-- Applied to the stored device, the payload gives the stored device again, and a cluster that
it names is there already. -/
def DeviceUpdate.Restates (b : Backend) (p : DeviceUpdate) (d : Device) (db : Database) : Prop :=
  ∃ x row, p.assignCluster b (p.draft d) d db = .ok (x, db) ∧ x.flush d = some row ∧
    p.withPassword b row = d

/-- The stored cluster after the edit. -/
def ClusterPayload.edited (p : ClusterPayload) (networks : List String) (c : Cluster) : Cluster :=
  { p.applyTo c with
    name := Text.strip p.name
    internalNetworks := replacedNetworks c.internalNetworks networks }

/-- Applied to the stored cluster, the payload gives the stored cluster again, and its members
follow it already. -/
def ClusterPayload.Restates (p : ClusterPayload) (c : Cluster) (db : Database) : Prop :=
  (∃ networks, normalizeInternalNetworks p.internalNetworks = .ok networks ∧
      p.edited networks c = c) ∧
    ∀ d ∈ db.devices, d.clusterId = some c.id →
      d.scanIntervalMinutes = p.scanIntervalMinutes ∧ d.scheduledEnabled = p.scheduledEnabled

/-- The members have the jobs that they should have, if the process has a scheduler. -/
def MembersScheduled (state : ServerState) (clusterId : ℕ) : Prop :=
  ∀ s ∈ state.scheduler, ∀ d ∈ state.db.devices, d.clusterId = some clusterId →
    s.job? d.id = d.job

/-- The request is refused, if it is, with something left behind. -/
def Exposed (b : Backend) (fault : Option DatabaseFault) (state : ServerState) :
    WriteRequest → Prop
  | .createDevice p => Accepted b state.db (.createDevice p) ∧ failsBehindCommit fault true
  | .updateDevice deviceId p => Accepted b state.db (.updateDevice deviceId p) ∧
      failsBehindCommit fault true ∧
      ¬ ∃ d ∈ state.db.devices, d.id = deviceId ∧ p.Restates b d state.db
  | .deleteDevice deviceId wall => failsAt fault .lookup = none ∧
      (∃ d ∈ state.db.devices, d.id = deviceId) ∧
      ((state.job? deviceId).isSome ∨
        (Accepted b state.db (.deleteDevice deviceId wall) ∧ failsBehindCommit fault false))
  | .addCluster p => Accepted b state.db (.addCluster p) ∧ failsBehindCommit fault true
  | .editCluster clusterId p => Accepted b state.db (.editCluster clusterId p) ∧
      ((failsBehindCommit fault true ∧
          ¬ ∃ c ∈ state.db.clusters, c.id = clusterId ∧ p.Restates c state.db) ∨
        ((failsAt fault .respond).isSome ∧
          ¬ ((∃ c ∈ state.db.clusters, c.id = clusterId ∧ p.Restates c state.db) ∧
            MembersScheduled state clusterId)))
  | .removeCluster clusterId => Accepted b state.db (.removeCluster clusterId) ∧
      failsBehindCommit fault false

/-- The keys of devices and of clusters are unique. -/
structure KeysUnique (db : Database) : Prop where
  devices : (db.devices.map (·.id)).Nodup
  clusters : (db.clusters.map (·.id)).Nodup

/-! ## The transaction of a write -/

variable {b : Backend} {fault : Option DatabaseFault} {state : ServerState}

theorem failsAt_other {stage stage' : DatabaseStage} (h : (failsAt fault stage).isSome)
    (hne : stage' ≠ stage) : failsAt fault stage' = none := by
  unfold failsAt at h ⊢
  cases fault with
  | none => cases h
  | some f =>
    have hstage : f.stage = stage := by simpa [Option.filter] using h
    simp [Option.filter, hstage, hne.symm]

/-- An error of the transaction leaves nothing, or all of it. -/
theorem ServerState.write_error {refreshes : Bool} {db : Database} {jobs : Scheduler → Scheduler}
    {e : ApiError} (h : (state.write fault refreshes db jobs).1 = some e) :
    ((state.write fault refreshes db jobs).2 = state ∧ ¬ failsBehindCommit fault refreshes) ∨
      ((state.write fault refreshes db jobs).2 = { state with db := db } ∧
        failsBehindCommit fault refreshes) := by
  unfold ServerState.write at h ⊢
  unfold failsBehindCommit
  cases hwrite : failsAt fault .write with
  | some e =>
    have hsome : (failsAt fault .write).isSome := by rw [hwrite]; rfl
    left
    rw [failsAt_other hsome (by decide), failsAt_other hsome (by decide)]
    simp
  | none =>
    rw [hwrite] at h
    right
    cases hanswer : failsAt fault .commitAnswer with
    | some e => exact ⟨rfl, .inl rfl⟩
    | none =>
      rw [hanswer] at h
      cases refreshes with
      | false => cases h
      | true =>
        cases hrefresh : failsAt fault .refresh with
        | some e => exact ⟨rfl, .inr ⟨rfl, rfl⟩⟩
        | none =>
          rw [hrefresh] at h
          cases h

theorem ServerState.write_unchanged {refreshes : Bool} {db : Database}
    {jobs : Scheduler → Scheduler} {e : ApiError}
    (h : (state.write fault refreshes db jobs).1 = some e) :
    Unchanged state (state.write fault refreshes db jobs).2 ↔
      ¬ (failsBehindCommit fault refreshes ∧ db ≠ state.db) := by
  rcases ServerState.write_error h with ⟨hafter, hfails⟩ | ⟨hafter, hfails⟩
  · rw [hafter]
    exact iff_of_true ⟨rfl, fun _ => rfl⟩ fun hboth => hfails hboth.1
  · rw [hafter]
    constructor
    · rintro ⟨hdb, -⟩ ⟨-, hne⟩
      exact hne hdb
    · intro hsame
      have hdb : db = state.db := by
        by_contra hne
        exact hsame ⟨hfails, hne⟩
      exact ⟨hdb, fun _ => rfl⟩

theorem unchanged_refl (state : ServerState) : Unchanged state state := ⟨rfl, fun _ => rfl⟩

/-! ## The rows that a request writes -/

theorem createDevice_ne {p : DeviceCreate} {db db' : Database} {device : Device}
    (h : createDevice b p db = .ok (device, db')) : db' ≠ db := by
  obtain ⟨cluster, mid, hresolve, rfl, rfl⟩ := createDevice_ok h
  have hframe := (resolveCluster_ok hresolve).2.1
  intro hdb
  have hlength := congrArg (fun db : Database => db.devices.length) hdb
  simp [Database.insertDevice, hframe.devices] at hlength

theorem addCluster_ne {p : ClusterPayload} {db db' : Database} (h : addCluster b p db = .ok db') :
    db' ≠ db := by
  unfold addCluster at h
  split_ifs at h
  split at h
  · cases h
  · rename_i hcreate
    cases h
    obtain ⟨rfl, normalized, nets, rfl⟩ := createCluster_ok hcreate
    intro hdb
    have hlength := congrArg (fun db : Database => db.clusters.length) hdb
    simp [Database.updateCluster] at hlength

theorem deleteDevice_ne {deviceId : ℕ} {wall : Timestamp} {db db' : Database}
    (h : deleteDevice deviceId wall db = .ok db') : db' ≠ db := by
  have hdevices := (deleteDevice_ok h).1
  unfold deleteDevice at h
  split_ifs at h with hexists
  obtain ⟨d, hd, hid⟩ := List.any_eq_true.mp hexists
  rintro rfl
  rw [hdevices] at hd
  have hgone := (List.mem_filter.mp hd).2
  simp only [ne_eq, decide_not, Bool.not_eq_true', decide_eq_false_iff_not] at hgone
  exact hgone (by simpa using hid)

theorem removeCluster_ne {clusterId : ℕ} {db db' : Database}
    (h : removeCluster clusterId db = .ok db') : db' ≠ db := by
  unfold removeCluster at h
  split_ifs at h with hexists
  cases h
  obtain ⟨c, hc, hid⟩ := List.any_eq_true.mp hexists
  intro hdb
  have hclusters : db.clusters.filter (·.id ≠ clusterId) = db.clusters :=
    congrArg Database.clusters hdb
  rw [← hclusters] at hc
  have hgone := (List.mem_filter.mp hc).2
  simp only [ne_eq, decide_not, Bool.not_eq_true', decide_eq_false_iff_not] at hgone
  exact hgone (by simpa using hid)

/-- A row that is rewritten by its key stays as it is exactly if it is given again. -/
theorem map_key_eq_self {α : Type} {key : α → ℕ} {rows : List α} (hkeys : (rows.map key).Nodup)
    {r : α} (hr : r ∈ rows) (f : α → α) :
    (rows.map fun a => if key a = key r then f a else a) = rows ↔ f r = r := by
  have hself : (rows.map fun a => if key a = key r then f a else a) = rows ↔
      ∀ a ∈ rows, (if key a = key r then f a else a) = a := by
    conv_lhs => rw [← List.map_id rows, List.map_map]
    exact List.map_inj_left
  rw [hself]
  constructor
  · intro h
    have hrow := h r hr
    rwa [if_pos rfl] at hrow
  · intro h a ha
    split_ifs with hkey
    · rw [List.inj_on_of_nodup_map hkeys ha hr hkey]
      exact h
    · rfl

theorem updateDevice_eq_iff {deviceId : ℕ} {p : DeviceUpdate} {db db' : Database} {device : Device}
    (hkeys : (db.devices.map (·.id)).Nodup)
    (h : updateDevice b deviceId p db = .ok (device, db')) :
    db' = db ↔ ∃ d ∈ db.devices, d.id = deviceId ∧ p.Restates b d db := by
  obtain ⟨old, hold, hid, draft, mid, row, hassign, hflush, hdevice, rfl⟩ := updateDevice_ok h
  have hframe := (assignCluster_ok hassign).1
  have hdeviceId : device.id = old.id := by
    rw [hdevice, (withPassword_policy b p row).1, (flush_policy hflush).1]
  have hrows : (mid.updateDevice device).devices = db.devices ↔ device = old := by
    have hmap := map_key_eq_self hkeys hold fun _ => device
    rw [← hmap, Database.updateDevice, hframe.devices, hdeviceId]
  constructor
  · intro hdb
    have hdevices : device = old := hrows.mp (congrArg Database.devices hdb)
    have hmid : mid = db := by
      have hback : mid = { mid.updateDevice device with devices := mid.devices } := rfl
      rw [hback, hdb, hframe.devices]
    rw [hmid] at hassign
    exact ⟨old, hold, hid, draft, row, hassign, hflush, hdevice.symm.trans hdevices⟩
  · rintro ⟨d, hd, hdid, x, row', hassign', hflush', hrestated⟩
    obtain rfl : d = old := List.inj_on_of_nodup_map hkeys hd hold (hdid.trans hid.symm)
    rw [hassign'] at hassign
    cases hassign
    rw [hflush'] at hflush
    cases hflush
    have hsame := hrows.mpr (hdevice.trans hrestated)
    have hback : db.updateDevice device =
        { db with devices := (db.updateDevice device).devices } := rfl
    rw [hback, hsame]

/-- The member with the scan policy of the payload. -/
def ClusterPayload.follow (p : ClusterPayload) (d : Device) : Device :=
  { d with
    scanIntervalMinutes := p.scanIntervalMinutes
    scheduledEnabled := p.scheduledEnabled }

theorem normalizeClusterName_eq {name normalized : String}
    (h : normalizeClusterName name = .ok normalized) : normalized = Text.strip name := by
  unfold normalizeClusterName at h
  dsimp only at h
  split_ifs at h
  cases h
  rfl

theorem updateCluster_updateCluster {db : Database} {clusterId : ℕ} {f g : Cluster → Cluster}
    (hf : ∀ c, (f c).id = c.id) :
    (db.updateCluster clusterId f).updateCluster clusterId g =
      db.updateCluster clusterId fun c => g (f c) := by
  simp only [Database.updateCluster, List.map_map]
  congr 1
  apply List.map_congr_left
  intro c _
  by_cases hc : c.id = clusterId
  · have hfc : (f c).id = clusterId := (hf c).trans hc
    simp [hc, hfc]
  · simp [hc]

/-- The rows that an edit writes. -/
theorem editCluster_written {clusterId : ℕ} {p : ClusterPayload} {db db' : Database}
    {members : List Device} (h : editCluster b clusterId p db = .ok (members, db')) :
    (∃ c ∈ db.clusters, c.id = clusterId) ∧ ∃ networks,
      normalizeInternalNetworks p.internalNetworks = .ok networks ∧
      db' = { db with
        clusters := db.clusters.map fun c => if c.id = clusterId then p.edited networks c else c
        devices := db.devices.map fun d =>
          if d.clusterId = some clusterId then p.follow d else d } := by
  unfold editCluster at h
  split_ifs at h
  split at h
  · cases h
  · rename_i cluster hfind
    have hid : cluster.id = clusterId := by simpa using List.find?_some hfind
    split at h
    · cases h
    · rename_i normalized hnormalized
      split at h
      · cases h
      · cases h
      · split_ifs at h
        split at h
        · cases h
        · rename_i replaced hreplace
          unfold replaceInternalNetworks at hreplace
          split at hreplace
          · cases hreplace
          · rename_i networks hnetworks
            cases hreplace
            cases h
            refine ⟨⟨cluster, List.mem_of_find?_eq_some hfind, hid⟩, networks, hnetworks, ?_⟩
            have happlied : (p.applyTo cluster).id = clusterId := hid
            obtain rfl := normalizeClusterName_eq hnormalized
            have htwice : (db.updateCluster clusterId fun c =>
                { p.applyTo c with name := Text.strip p.name }).updateCluster clusterId (fun c =>
                { c with internalNetworks := replacedNetworks c.internalNetworks networks }) =
                  db.updateCluster clusterId (p.edited networks) :=
              updateCluster_updateCluster fun c => rfl
            rw [htwice]
            simp only [happlied]
            rfl

theorem follow_eq_self {p : ClusterPayload} {d : Device} : p.follow d = d ↔
    d.scanIntervalMinutes = p.scanIntervalMinutes ∧ d.scheduledEnabled = p.scheduledEnabled := by
  constructor
  · intro h
    exact ⟨(congrArg Device.scanIntervalMinutes h).symm, (congrArg Device.scheduledEnabled h).symm⟩
  · rintro ⟨hinterval, henabled⟩
    rw [ClusterPayload.follow, ← hinterval, ← henabled]

theorem editCluster_eq_iff {clusterId : ℕ} {p : ClusterPayload} {db db' : Database}
    {members : List Device} (hkeys : (db.clusters.map (·.id)).Nodup)
    (h : editCluster b clusterId p db = .ok (members, db')) :
    db' = db ↔ ∃ c ∈ db.clusters, c.id = clusterId ∧ p.Restates c db := by
  obtain ⟨⟨cluster, hcluster, rfl⟩, networks, hnetworks, rfl⟩ := editCluster_written h
  have hclusters := map_key_eq_self hkeys hcluster (p.edited networks)
  have hdevices : (db.devices.map fun d => if d.clusterId = some cluster.id then p.follow d else d) =
      db.devices ↔ ∀ d ∈ db.devices, d.clusterId = some cluster.id →
        d.scanIntervalMinutes = p.scanIntervalMinutes ∧ d.scheduledEnabled = p.scheduledEnabled := by
    conv_lhs => rw [← List.map_id db.devices, List.map_map, List.map_inj_left]
    constructor
    · intro hall d hd hmember
      have hrow := hall d hd
      simp only [Function.comp_apply, id_eq, if_pos hmember] at hrow
      exact follow_eq_self.mp hrow
    · intro hall d hd
      simp only [Function.comp_apply, id_eq]
      split_ifs with hmember
      · exact follow_eq_self.mpr (hall d hd hmember)
      · rfl
  constructor
  · intro hdb
    have hsame := hclusters.mp (congrArg Database.clusters hdb)
    exact ⟨cluster, hcluster, rfl, ⟨networks, hnetworks, hsame⟩,
      hdevices.mp (congrArg Database.devices hdb)⟩
  · rintro ⟨c, hc, hid, ⟨networks', hnetworks', hsame⟩, hmembers⟩
    obtain rfl : c = cluster := List.inj_on_of_nodup_map hkeys hc hcluster hid
    rw [hnetworks] at hnetworks'
    cases hnetworks'
    rw [hclusters.mpr hsame, hdevices.mpr hmembers]

/-- Synchronizing devices changes no job exactly if they have the jobs that they should have. -/
theorem syncAll_unchanged {devices : List Device} (hids : (devices.map (·.id)).Nodup)
    (s : Scheduler) : (∀ id, (devices.foldl Scheduler.syncDevice s).job? id = s.job? id) ↔
      ∀ d ∈ devices, s.job? d.id = d.job := by
  have hjobs := @Scheduler.job?_syncAll (wantedJob devices) devices
    (fun d hd => (wantedJob_of_mem hids hd).symm) s
  simp only [hjobs]
  constructor
  · intro h d hd
    have hid := h d.id
    rw [if_pos (List.mem_map_of_mem hd), wantedJob_of_mem hids hd] at hid
    exact hid.symm
  · intro h id
    split_ifs with hmem
    · obtain ⟨d, hd, rfl⟩ := List.mem_map.mp hmem
      rw [wantedJob_of_mem hids hd, h d hd]
    · rfl

/-! ## The handlers -/

variable {e : ApiError}

theorem serveCreateDevice_unchanged {p : DeviceCreate}
    (h : (serveCreateDevice b fault p state).1 = some e) :
    Unchanged state (serveCreateDevice b fault p state).2 ↔
      ¬ Exposed b fault state (.createDevice p) := by
  unfold Exposed Accepted WriteRequest.request performRequest
  dsimp only
  unfold serveCreateDevice at h ⊢
  cases hcreate : createDevice b p state.db with
  | error refused =>
    exact iff_of_true (unchanged_refl state) (by simp [Except.map])
  | ok r =>
    obtain ⟨device, db⟩ := r
    rw [hcreate] at h
    rw [ServerState.write_unchanged h]
    simp [Except.map, createDevice_ne hcreate]

theorem serveAddCluster_unchanged {p : ClusterPayload}
    (h : (serveAddCluster b fault p state).1 = some e) :
    Unchanged state (serveAddCluster b fault p state).2 ↔
      ¬ Exposed b fault state (.addCluster p) := by
  unfold Exposed Accepted WriteRequest.request performRequest
  dsimp only
  unfold serveAddCluster at h ⊢
  cases hadd : addCluster b p state.db with
  | error refused =>
    exact iff_of_true (unchanged_refl state) (by simp [Except.map])
  | ok db =>
    rw [hadd] at h
    rw [ServerState.write_unchanged h]
    simp [Except.map, addCluster_ne hadd]

/-- A failing lookup is no failure behind the commit. -/
theorem not_failsBehindCommit {refreshes : Bool} {stage : DatabaseStage}
    (h : (failsAt fault stage).isSome) (hanswer : .commitAnswer ≠ stage) (hrefresh : .refresh ≠ stage) :
    ¬ failsBehindCommit fault refreshes := by
  unfold failsBehindCommit
  rw [failsAt_other h hanswer, failsAt_other h hrefresh]
  simp

theorem serveUpdateDevice_unchanged {deviceId : ℕ} {p : DeviceUpdate}
    (hkeys : (state.db.devices.map (·.id)).Nodup)
    (h : (serveUpdateDevice b fault deviceId p state).1 = some e) :
    Unchanged state (serveUpdateDevice b fault deviceId p state).2 ↔
      ¬ Exposed b fault state (.updateDevice deviceId p) := by
  unfold Exposed Accepted WriteRequest.request performRequest
  dsimp only
  unfold serveUpdateDevice at h ⊢
  split_ifs at h ⊢ with hlookup
  · rw [Bool.and_eq_true] at hlookup
    have hfails := @not_failsBehindCommit fault true _ hlookup.2 (by decide) (by decide)
    exact iff_of_true (unchanged_refl state) fun hexposed => hfails hexposed.2.1
  · cases hupdate : updateDevice b deviceId p state.db with
    | error refused =>
      exact iff_of_true (unchanged_refl state) (by simp [Except.map])
    | ok r =>
      obtain ⟨device, db⟩ := r
      rw [hupdate] at h
      rw [ServerState.write_unchanged h, ne_eq, updateDevice_eq_iff hkeys hupdate]
      simp [Except.map]

theorem serveRemoveCluster_unchanged {clusterId : ℕ}
    (h : (serveRemoveCluster fault clusterId state).1 = some e) :
    Unchanged state (serveRemoveCluster fault clusterId state).2 ↔
      ¬ Exposed b fault state (.removeCluster clusterId) := by
  unfold Exposed Accepted WriteRequest.request performRequest
  dsimp only
  unfold serveRemoveCluster at h ⊢
  cases hlookup : failsAt fault .lookup with
  | some unavailable =>
    have hfails := @not_failsBehindCommit fault false .lookup (by rw [hlookup]; rfl) (by decide)
      (by decide)
    exact iff_of_true (unchanged_refl state) fun hexposed => hfails hexposed.2
  | none =>
    rw [hlookup] at h
    dsimp only at h ⊢
    cases hremove : removeCluster clusterId state.db with
    | error refused =>
      exact iff_of_true (unchanged_refl state) (by simp [Except.map])
    | ok db =>
      rw [hremove] at h
      rw [ServerState.write_unchanged h]
      simp [Except.map, removeCluster_ne hremove]

/-- Removing a job changes nothing exactly if there is none. -/
theorem removeJob_unchanged (state : ServerState) (deviceId : ℕ) :
    (∀ id, (state.removeJob deviceId).job? id = state.job? id) ↔ state.job? deviceId = none := by
  have hjob : ∀ id, (state.removeJob deviceId).job? id =
      if id = deviceId then none else state.job? id := by
    intro id
    unfold ServerState.removeJob ServerState.job?
    cases state.scheduler with
    | none => simp
    | some s => simp [Scheduler.job?_removeDevice]
  simp only [hjob]
  constructor
  · intro h
    have hid := h deviceId
    rw [if_pos rfl] at hid
    exact hid.symm
  · intro h id
    split_ifs with hid
    · rw [hid, h]
    · rfl

theorem serveDeleteDevice_unchanged {deviceId : ℕ} {wall : Timestamp}
    (h : (serveDeleteDevice fault deviceId wall state).1 = some e) :
    Unchanged state (serveDeleteDevice fault deviceId wall state).2 ↔
      ¬ Exposed b fault state (.deleteDevice deviceId wall) := by
  unfold Exposed Accepted WriteRequest.request performRequest
  dsimp only
  unfold serveDeleteDevice at h ⊢
  cases hlookup : failsAt fault .lookup with
  | some unavailable =>
    exact iff_of_true (unchanged_refl state) (by simp)
  | none =>
    rw [hlookup] at h
    dsimp only at h ⊢
    have hexists : state.db.devices.any (·.id = deviceId) = true ↔
        ∃ d ∈ state.db.devices, d.id = deviceId := by simp
    split_ifs at h ⊢ with hany
    · have hdevice := hexists.mp hany
      have hjob := removeJob_unchanged state deviceId
      cases hdelete : deleteDevice deviceId wall state.db with
      | error refused =>
        have hunchanged : Unchanged state (state.removeJob deviceId) ↔
            state.job? deviceId = none := by
          rw [← hjob]
          exact and_iff_right rfl
        simp [hunchanged, hdevice]
      | ok db =>
        rw [hdelete] at h
        have hne := deleteDevice_ne hdelete
        dsimp only at h ⊢
        rcases ServerState.write_error h with ⟨hafter, hfails⟩ | ⟨hafter, hfails⟩
        · have hunchanged : Unchanged state (state.removeJob deviceId) ↔
              state.job? deviceId = none := by
            rw [← hjob]
            exact and_iff_right rfl
          rw [hafter, hunchanged]
          simp [hdevice, hfails]
        · rw [hafter]
          refine iff_of_false (fun hsame => hne hsame.1) (not_not.mpr ?_)
          exact ⟨rfl, hdevice, .inr ⟨⟨_, rfl⟩, hfails⟩⟩
    · exact iff_of_true (unchanged_refl state) fun hexposed => hany (hexists.mpr hexposed.2.1)

theorem ServerState.write_respond {refreshes : Bool} {db : Database} {jobs : Scheduler → Scheduler}
    (h : (failsAt fault .respond).isSome) :
    state.write fault refreshes db jobs = (none, ⟨db, state.scheduler.map jobs⟩) := by
  unfold ServerState.write
  rw [failsAt_other h (by decide), failsAt_other h (by decide), failsAt_other h (by decide)]
  cases refreshes <;> rfl

/-- The members that an edit reports are those of the cluster, with its scan policy. -/
theorem editCluster_members {clusterId : ℕ} {p : ClusterPayload} {db db' : Database}
    {members : List Device} (h : editCluster b clusterId p db = .ok (members, db')) :
    members = (db.devices.filter (·.clusterId = some clusterId)).map p.follow :=
  (editCluster_ok h).1

/-- Behind an edit that changes no row, no job changes exactly if the members have theirs. -/
theorem membersScheduled_iff {clusterId : ℕ} {p : ClusterPayload} {db : Database}
    {members : List Device} (hkeys : (state.db.devices.map (·.id)).Nodup)
    (hedit : editCluster b clusterId p state.db = .ok (members, db)) (hsame : db = state.db) :
    (∀ id, (ServerState.job? ⟨db, state.scheduler.map (members.foldl Scheduler.syncDevice)⟩ id) =
        state.job? id) ↔ MembersScheduled state clusterId := by
  obtain ⟨-, networks, -, hwritten⟩ := editCluster_written hedit
  have hfollow : ∀ d ∈ state.db.devices, d.clusterId = some clusterId → p.follow d = d := by
    have hdevices := congrArg Database.devices (hsame.symm.trans hwritten)
    conv at hdevices => lhs; rw [← List.map_id state.db.devices]
    rw [List.map_inj_left] at hdevices
    intro d hd hmember
    have hrow := hdevices d hd
    rw [if_pos hmember] at hrow
    exact hrow.symm
  have hmembers : members = state.db.devices.filter (·.clusterId = some clusterId) := by
    rw [editCluster_members hedit]
    conv_rhs => rw [← List.map_id (state.db.devices.filter _)]
    apply List.map_congr_left
    intro d hd
    obtain ⟨hd, hmember⟩ := List.mem_filter.mp hd
    exact hfollow d hd (by simpa using hmember)
  have hids : (members.map (·.id)).Nodup := by
    rw [hmembers]
    exact hkeys.sublist (List.filter_sublist.map _)
  unfold MembersScheduled ServerState.job?
  cases state.scheduler with
  | none => simp
  | some s =>
    simp only [Option.map_some, Option.bind_some, Option.mem_some_iff, forall_eq']
    rw [syncAll_unchanged hids, hmembers]
    simp only [List.mem_filter, decide_eq_true_eq, and_imp]

theorem serveEditCluster_unchanged {clusterId : ℕ} {p : ClusterPayload}
    (hkeys : KeysUnique state.db) (h : (serveEditCluster b fault clusterId p state).1 = some e) :
    Unchanged state (serveEditCluster b fault clusterId p state).2 ↔
      ¬ Exposed b fault state (.editCluster clusterId p) := by
  unfold Exposed Accepted WriteRequest.request performRequest
  dsimp only
  unfold serveEditCluster at h ⊢
  split_ifs at h ⊢ with haccepted
  · have hrefused : editCluster b clusterId p state.db = .error .validation := if_pos haccepted
    rw [hrefused]
    exact iff_of_true (unchanged_refl state) (by simp)
  · cases hlookup : failsAt fault .lookup with
    | some unavailable =>
      have hsome : (failsAt fault .lookup).isSome := by rw [hlookup]; rfl
      have hfails := @not_failsBehindCommit fault true .lookup hsome (by decide) (by decide)
      refine iff_of_true (unchanged_refl state) ?_
      rintro ⟨-, ⟨hbehind, -⟩ | ⟨hrespond, -⟩⟩
      · exact hfails hbehind
      · rw [failsAt_other hsome (by decide)] at hrespond
        cases hrespond
    | none =>
      rw [hlookup] at h
      dsimp only at h ⊢
      cases hedit : editCluster b clusterId p state.db with
      | error refused => exact iff_of_true (unchanged_refl state) (by simp)
      | ok r =>
        obtain ⟨members, db⟩ := r
        rw [hedit] at h
        dsimp only at h ⊢
        have hrows := editCluster_eq_iff hkeys.clusters hedit
        by_cases hrespond : (failsAt fault .respond).isSome
        · have hbehind := @not_failsBehindCommit fault true _ hrespond (by decide) (by decide)
          rw [ServerState.write_respond hrespond]
          simp only [Unchanged, hrespond, hbehind, true_and, false_and, false_or, ← hrows]
          have hjobs := fun hsame => membersScheduled_iff hkeys.devices hedit hsame
          constructor
          · rintro ⟨hsame, hunchanged⟩ ⟨-, hnot⟩
            exact hnot ⟨hsame, (hjobs hsame).mp hunchanged⟩
          · intro hnot
            have hboth : db = state.db ∧ MembersScheduled state clusterId := by
              by_contra hneither
              exact hnot ⟨⟨_, rfl⟩, hneither⟩
            exact ⟨hboth.1, (hjobs hboth.1).mpr hboth.2⟩
        · rw [Option.not_isSome_iff_eq_none] at hrespond
          rw [hrespond, Option.or_none] at h
          rw [ServerState.write_unchanged h, ne_eq, hrows, hrespond]
          simp

/-- A refused request changes nothing exactly if it is not exposed: it is no deletion of a device
with a job in this process, and the database does not fail behind a commit that has changed
something. -/
theorem refused_unchanged_iff (b : Backend) (fault : Option DatabaseFault) {state : ServerState}
    (hkeys : KeysUnique state.db) (request : WriteRequest) {e : ApiError}
    (h : (serve b fault state request).1 = some e) :
    e.status ∈ [404, 409, 422, 502, 503] →
      (Unchanged state (serve b fault state request).2 ↔ ¬ Exposed b fault state request) := by
  intro _
  cases request with
  | createDevice p => exact serveCreateDevice_unchanged h
  | updateDevice deviceId p => exact serveUpdateDevice_unchanged hkeys.devices h
  | deleteDevice deviceId wall => exact serveDeleteDevice_unchanged h
  | addCluster p => exact serveAddCluster_unchanged h
  | editCluster clusterId p => exact serveEditCluster_unchanged hkeys h
  | removeCluster clusterId => exact serveRemoveCluster_unchanged h

/-- A scheduled device whose scan is running, with its job. -/
def scanningDevice : ServerState where
  db := {
    devices := [{ id := 1, name := "web-01", host := "10.0.0.10" }]
    scanTasks := [{ id := 1, deviceId := 1, triggerType := .scheduled, priority := 0,
                    status := .running }]
    sequences := { devices := 2, scanTasks := 2 } }
  scheduler := some { running := true, jobs := [(1, 5)] }

theorem scanningDevice_keys : KeysUnique scanningDevice.db := ⟨by decide, by decide⟩

theorem refused_update_unchanged :
    let refused := serve plainBackend none scanningDevice (.updateDevice 7 {})
    refused.1 = some (.http 404 "设备不存在") ∧ Unchanged scanningDevice refused.2 := by
  have hrefused : (serve plainBackend none scanningDevice (.updateDevice 7 {})).1 =
      some (.http 404 "设备不存在") := by decide
  refine ⟨hrefused, (refused_unchanged_iff plainBackend none scanningDevice_keys _ hrefused
    (by decide)).mpr ?_⟩
  rintro ⟨-, hbehind, -⟩
  rcases hbehind with hbehind | ⟨-, hbehind⟩
  · cases hbehind
  · cases hbehind

/-- The deletion is refused because of the running scan, and the job is gone. -/
theorem refused_deletion_loses_job :
    let refused := serve plainBackend none scanningDevice (.deleteDevice 1 0)
    refused.1 = some (.http 409 "该设备正在扫描，请稍后再删除") ∧
      scanningDevice.job? 1 = some 5 ∧ refused.2.job? 1 = none ∧
      ¬ Unchanged scanningDevice refused.2 := by
  refine ⟨by decide, by decide, by decide, ?_⟩
  rintro ⟨-, hjobs⟩
  have hjob := hjobs 1
  revert hjob
  decide

end ConnectionTopology
