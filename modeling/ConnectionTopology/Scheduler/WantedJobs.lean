import ConnectionTopology.Services.Scheduler
import ConnectionTopology.Clusters.ScanPolicy

/-!
# Jobs that the database asks for

The job that each device should have, and how every request changes it. A request hands
to `sync_device` every device whose job it changes, as the device is after the commit.
-/
namespace ConnectionTopology

/-- The interval of the job that the device should have. -/
def Device.job (d : Device) : Option ℕ :=
  if d.scheduledEnabled && d.collectionEnabled then some d.scanIntervalMinutes else none

def wantedJob (devices : List Device) (deviceId : ℕ) : Option ℕ :=
  (devices.find? (·.id = deviceId)).bind Device.job

/-! ## One scheduler -/

theorem Scheduler.job?_removeDevice (s : Scheduler) (deviceId id : ℕ) :
    (s.removeDevice deviceId).job? id = if id = deviceId then none else s.job? id := by
  simp only [Scheduler.removeDevice, Scheduler.job?, List.find?_filter]
  by_cases h : id = deviceId
  · rw [if_pos h, Option.map_eq_none_iff, List.find?_eq_none]
    intro job _
    simp [h]
  · rw [if_neg h]
    congr 1
    apply List.find?_congr
    intro job _
    by_cases hjob : job.1 = id
    · simp [hjob, h]
    · simp [hjob]

theorem Scheduler.job?_addJob (s : Scheduler) (deviceId minutes id : ℕ) :
    (s.addJob deviceId minutes).job? id = if id = deviceId then some minutes else s.job? id := by
  have hremoved := s.job?_removeDevice deviceId id
  simp only [Scheduler.removeDevice, Scheduler.job?] at hremoved
  simp only [Scheduler.addJob, Scheduler.job?, List.find?_append, Option.map_or, hremoved]
  by_cases h : id = deviceId
  · simp [h]
  · have h' : ¬ deviceId = id := fun he => h he.symm
    simp [h, h']

theorem Scheduler.job?_syncDevice (s : Scheduler) (device : Device) (id : ℕ) :
    (s.syncDevice device).job? id = if id = device.id then device.job else s.job? id := by
  unfold Scheduler.syncDevice Device.job
  cases hc : device.collectionEnabled <;> cases hs : device.scheduledEnabled <;>
    simp [job?_removeDevice, job?_addJob]

@[simp] theorem Scheduler.running_syncDevice (s : Scheduler) (device : Device) :
    (s.syncDevice device).running = s.running := by
  unfold Scheduler.syncDevice
  split_ifs <;> rfl

/-- Synchronizing several devices leaves the wanted jobs under their keys. -/
theorem Scheduler.job?_syncAll {wanted : ℕ → Option ℕ} {devices : List Device}
    (hwanted : ∀ d ∈ devices, d.job = wanted d.id) (s : Scheduler) (id : ℕ) :
    (devices.foldl Scheduler.syncDevice s).job? id =
      if id ∈ devices.map (·.id) then wanted id else s.job? id := by
  induction devices generalizing s with
  | nil => simp
  | cons d devices ih =>
    rw [List.foldl_cons, ih fun e he => hwanted e (List.mem_cons_of_mem d he), job?_syncDevice]
    by_cases hrest : id ∈ devices.map (·.id)
    · have hall : id ∈ (d :: devices).map (·.id) := List.mem_cons_of_mem _ hrest
      rw [if_pos hrest, if_pos hall]
    · rw [if_neg hrest]
      by_cases hid : id = d.id
      · rw [if_pos hid, if_pos (by simp [hid]), hwanted d (by simp), hid]
      · rw [if_neg hid, if_neg (by simpa [hid] using hrest)]

theorem Scheduler.running_syncAll (devices : List Device) (s : Scheduler) :
    (devices.foldl Scheduler.syncDevice s).running = s.running := by
  induction devices generalizing s with
  | nil => rfl
  | cons d devices ih => rw [List.foldl_cons, ih, running_syncDevice]

/-! ## Lists of devices -/

/-- Device keys are distinct and drawn from the sequence, and so are the batches that
the results of imports refer to. -/
structure DevicesOk (db : Database) : Prop where
  ids : (db.devices.map (·.id)).Nodup
  fresh : ∀ d ∈ db.devices, d.id < db.sequences.devices
  batches : ∀ r ∈ db.importRowResults, r.batchId < db.sequences.importBatches

theorem wantedJob_of_mem {devices : List Device} (hids : (devices.map (·.id)).Nodup) {d : Device}
    (hd : d ∈ devices) : wantedJob devices d.id = d.job := by
  rw [wantedJob, Dict.find?_key_of_mem hids hd]
  rfl

theorem wantedJob_eq_some {devices : List Device} (hids : (devices.map (·.id)).Nodup)
    {deviceId minutes : ℕ} :
    wantedJob devices deviceId = some minutes ↔
      ∃ d ∈ devices, d.id = deviceId ∧ d.scheduledEnabled = true ∧ d.collectionEnabled = true ∧
        d.scanIntervalMinutes = minutes := by
  have hjob : ∀ d : Device, d.job = some minutes ↔ d.scheduledEnabled = true ∧
      d.collectionEnabled = true ∧ d.scanIntervalMinutes = minutes := by
    intro d
    unfold Device.job
    cases d.scheduledEnabled <;> cases d.collectionEnabled <;> simp
  constructor
  · intro h
    obtain ⟨d, hfind, hd⟩ := Option.bind_eq_some_iff.mp h
    refine ⟨d, List.mem_of_find?_eq_some hfind, by simpa using List.find?_some hfind, ?_⟩
    exact (hjob d).mp hd
  · rintro ⟨d, hd, rfl, hrest⟩
    rw [wantedJob_of_mem hids hd]
    exact (hjob d).mpr hrest

theorem wantedJob_eq_none {devices : List Device} {deviceId : ℕ}
    (h : deviceId ∉ devices.map (·.id)) : wantedJob devices deviceId = none := by
  have hfind : devices.find? (·.id = deviceId) = none := by
    rw [List.find?_eq_none]
    intro d hd
    simpa using fun hid => h (List.mem_map.mpr ⟨d, hd, hid⟩)
  rw [wantedJob, hfind]
  rfl

theorem wantedJob_append {devices new : List Device} {deviceId : ℕ}
    (h : deviceId ∉ new.map (·.id)) :
    wantedJob (devices ++ new) deviceId = wantedJob devices deviceId := by
  have hfind : new.find? (·.id = deviceId) = none := by
    rw [List.find?_eq_none]
    intro d hd
    simpa using fun hid => h (List.mem_map.mpr ⟨d, hd, hid⟩)
  rw [wantedJob, List.find?_append, hfind, Option.or_none]
  rfl

/-- Rewriting devices changes the jobs of the rewritten ones only. -/
theorem wantedJob_map {devices : List Device} {f : Device → Device} {deviceId : ℕ}
    (hid : ∀ d ∈ devices, (f d).id = d.id)
    (hjob : ∀ d ∈ devices, d.id = deviceId → (f d).job = d.job) :
    wantedJob (devices.map f) deviceId = wantedJob devices deviceId := by
  induction devices with
  | nil => rfl
  | cons d devices ih =>
    have ih := ih (fun e he => hid e (List.mem_cons_of_mem d he))
      fun e he => hjob e (List.mem_cons_of_mem d he)
    unfold wantedJob at ih ⊢
    rw [List.map_cons]
    by_cases hd : d.id = deviceId
    · have hfd : (f d).id = deviceId := (hid d (by simp)).trans hd
      simp [hd, hfd, hjob d (by simp) hd]
    · have hfd : ¬ (f d).id = deviceId := by rwa [hid d (by simp)]
      simpa [hd, hfd] using ih

/-! ## What a request does to the wanted jobs -/

/-- The devices that exist and that a request may write. -/
def Request.deviceIds (db : Database) : Request → List ℕ
  | .updateDevice deviceId _ | .deleteDevice deviceId _ => [deviceId]
  | .editCluster clusterId _ => (db.devices.filter (·.clusterId = some clusterId)).map (·.id)
  | _ => []

/-- The request changes the jobs of the devices it reports only; these are written or
new devices, and they are reported as they are now. -/
structure JobChanges (written : List ℕ) (db db' : Database) (devices : List Device) : Prop where
  ok : DevicesOk db'
  sequence : db.sequences.devices ≤ db'.sequences.devices
  synced : ∀ d ∈ devices, d.job = wantedJob db'.devices d.id
  drawn : ∀ d ∈ devices, d.id < db'.sequences.devices
  reported : ∀ d ∈ devices, d.id ∈ written ∨ db.sequences.devices ≤ d.id
  changed : ∀ id, id ∉ devices.map (·.id) → wantedJob db'.devices id = wantedJob db.devices id

/-- Devices are rewritten in place. -/
theorem JobChanges.of_map {db db' : Database} (h : DevicesOk db) {f : Device → Device}
    {devices : List Device} {written : List ℕ} (hdevices : db'.devices = db.devices.map f)
    (hseq : db'.sequences = db.sequences) (hrows : db'.importRowResults = db.importRowResults)
    (hid : ∀ d ∈ db.devices, (f d).id = d.id)
    (hjob : ∀ d ∈ db.devices, (f d).job = d.job ∨ f d ∈ devices)
    (hreported : ∀ d ∈ devices, d ∈ db'.devices ∧ d.id ∈ written) :
    JobChanges written db db' devices := by
  have hids : (db.devices.map f).map (·.id) = db.devices.map (·.id) := by
    rw [List.map_map]
    exact List.map_congr_left hid
  have hok : DevicesOk db' := by
    refine ⟨by rw [hdevices, hids]; exact h.ids, ?_, by rw [hrows, hseq]; exact h.batches⟩
    rw [hdevices, hseq]
    intro d hd
    obtain ⟨d₀, hd₀, rfl⟩ := List.mem_map.mp hd
    rw [hid d₀ hd₀]
    exact h.fresh d₀ hd₀
  refine ⟨hok, by rw [hseq], ?_, ?_, ?_, ?_⟩
  · intro d hd
    exact (wantedJob_of_mem hok.ids (hreported d hd).1).symm
  · intro d hd
    exact hok.fresh d (hreported d hd).1
  · intro d hd
    exact Or.inl (hreported d hd).2
  · intro id hnot
    rw [hdevices]
    apply wantedJob_map hid
    intro d hd hdid
    rcases hjob d hd with hsame | hmem
    · exact hsame
    · exact absurd (List.mem_map.mpr ⟨f d, hmem, (hid d hd).trans hdid⟩) hnot

/-- Devices are added at the end under new keys. -/
theorem JobChanges.of_append {db db' : Database} (h : DevicesOk db) {new devices : List Device}
    (hdevices : db'.devices = db.devices ++ new) (hnodup : (new.map (·.id)).Nodup)
    (hnew : ∀ d ∈ new, db.sequences.devices ≤ d.id ∧ d.id < db'.sequences.devices)
    (hseq : db.sequences.devices ≤ db'.sequences.devices)
    (hrows : ∀ r ∈ db'.importRowResults, r.batchId < db'.sequences.importBatches)
    (hsub : ∀ d ∈ devices, d ∈ new) (hall : ∀ d ∈ new, d.id ∈ devices.map (·.id)) :
    JobChanges [] db db' devices := by
  have hok : DevicesOk db' := by
    refine ⟨?_, ?_, hrows⟩
    · rw [hdevices, List.map_append, List.nodup_append]
      refine ⟨h.ids, hnodup, ?_⟩
      intro a ha b hb
      obtain ⟨d, hd, rfl⟩ := List.mem_map.mp ha
      obtain ⟨e, he, rfl⟩ := List.mem_map.mp hb
      have hlt := h.fresh d hd
      have hle := (hnew e he).1
      omega
    · rw [hdevices]
      intro d hd
      rcases List.mem_append.mp hd with hd | hd
      · exact lt_of_lt_of_le (h.fresh d hd) hseq
      · exact (hnew d hd).2
  have hmem : ∀ d ∈ devices, d ∈ db'.devices := by
    intro d hd
    rw [hdevices]
    exact List.mem_append_right _ (hsub d hd)
  refine ⟨hok, hseq, ?_, ?_, ?_, ?_⟩
  · intro d hd
    exact (wantedJob_of_mem hok.ids (hmem d hd)).symm
  · intro d hd
    exact hok.fresh d (hmem d hd)
  · intro d hd
    exact Or.inr (hnew d (hsub d hd)).1
  · intro id hnot
    rw [hdevices]
    apply wantedJob_append
    intro hid
    obtain ⟨d, hd, rfl⟩ := List.mem_map.mp hid
    exact hnot (hall d hd)

theorem JobChanges.createDevice {b : Backend} {p : DeviceCreate} {db db' : Database}
    {device : Device} (h : DevicesOk db) (hcreate : createDevice b p db = .ok (device, db')) :
    JobChanges [] db db' [device] := by
  obtain ⟨cluster, mid, hresolve, rfl, rfl⟩ := createDevice_ok hcreate
  obtain ⟨-, hframe, -⟩ := resolveCluster_ok hresolve
  obtain ⟨hseq, hbatches⟩ := hframe.sequence
  apply JobChanges.of_append h
  · rw [← hframe.devices]
    rfl
  · simp
  · intro d hd
    rw [List.mem_singleton.mp hd]
    change db.sequences.devices ≤ mid.sequences.devices ∧
      mid.sequences.devices < mid.sequences.devices + 1
    omega
  · change db.sequences.devices ≤ mid.sequences.devices + 1
    omega
  · change ∀ r ∈ mid.importRowResults, r.batchId < mid.sequences.importBatches
    rw [hframe.importRowResults, hbatches]
    exact h.batches
  · exact fun d hd => hd
  · exact fun d hd => List.mem_map_of_mem hd

theorem JobChanges.updateDevice {b : Backend} {deviceId : ℕ} {p : DeviceUpdate} {db db' : Database}
    {device : Device} (h : DevicesOk db)
    (hupdate : updateDevice b deviceId p db = .ok (device, db')) :
    JobChanges [deviceId] db db' [device] := by
  obtain ⟨old, hold, hid, draft, mid, row, hassign, hflush, hdevice, rfl⟩ := updateDevice_ok hupdate
  have hframe := (assignCluster_ok hassign).1
  have hdeviceId : device.id = deviceId := by
    rw [hdevice, (withPassword_policy b p row).1, (flush_policy hflush).1, hid]
  have hmid : DevicesOk mid := by
    refine ⟨?_, ?_, ?_⟩
    · rw [hframe.devices]
      exact h.ids
    · rw [hframe.devices, hframe.sequence.1]
      exact h.fresh
    · rw [hframe.importRowResults, hframe.sequence.2]
      exact h.batches
  have hchanges : JobChanges [deviceId] mid (mid.updateDevice device) [device] := by
    refine JobChanges.of_map hmid rfl rfl rfl ?_ ?_ ?_
    · intro d _
      split_ifs with hd
      · exact hd.symm
      · rfl
    · intro d _
      split_ifs
      · exact Or.inr (List.mem_singleton.mpr rfl)
      · exact Or.inl rfl
    · intro d hd
      rw [List.mem_singleton.mp hd]
      refine ⟨List.mem_map.mpr ⟨old, ?_, if_pos (hid.trans hdeviceId.symm)⟩, by simp [hdeviceId]⟩
      rw [hframe.devices]
      exact hold
  refine ⟨hchanges.ok, ?_, hchanges.synced, hchanges.drawn, ?_, ?_⟩
  · rw [← hframe.sequence.1]
    exact hchanges.sequence
  · rw [← hframe.sequence.1]
    exact hchanges.reported
  · rw [← hframe.devices]
    exact hchanges.changed

/-- The devices stay as they are. -/
theorem JobChanges.of_frame {db db' : Database} (h : DevicesOk db) (hframe : OnlyClusters db db') :
    JobChanges [] db db' [] := by
  have hok : DevicesOk db' := by
    refine ⟨?_, ?_, ?_⟩
    · rw [hframe.devices]
      exact h.ids
    · rw [hframe.devices, hframe.sequence.1]
      exact h.fresh
    · rw [hframe.importRowResults, hframe.sequence.2]
      exact h.batches
  refine ⟨hok, hframe.sequence.1.ge, by simp, by simp, by simp, ?_⟩
  intro id _
  rw [hframe.devices]

theorem JobChanges.addCluster {b : Backend} {p : ClusterPayload} {db db' : Database}
    (h : DevicesOk db) (hadd : addCluster b p db = .ok db') : JobChanges [] db db' [] := by
  unfold ConnectionTopology.addCluster at hadd
  split_ifs at hadd
  split at hadd
  · cases hadd
  · rename_i id created hcreate
    cases hadd
    obtain ⟨rfl, normalized, nets, rfl⟩ := createCluster_ok hcreate
    exact JobChanges.of_frame h rfl

theorem JobChanges.editCluster {b : Backend} {clusterId : ℕ} {p : ClusterPayload} {db db' : Database}
    {members : List Device} (h : DevicesOk db)
    (hedit : editCluster b clusterId p db = .ok (members, db')) :
    JobChanges ((db.devices.filter (·.clusterId = some clusterId)).map (·.id)) db db' members := by
  obtain ⟨hmembers, hdevices, hseq, hrows, -⟩ := editCluster_ok hedit
  apply JobChanges.of_map h hdevices hseq hrows
  · intro d _
    split_ifs <;> rfl
  · intro d hd
    split_ifs with hmember
    · right
      rw [hmembers]
      exact List.mem_map_of_mem (List.mem_filter.mpr ⟨hd, by simpa using hmember⟩)
    · exact Or.inl rfl
  · intro d hd
    rw [hmembers] at hd
    obtain ⟨d₀, hd₀, rfl⟩ := List.mem_map.mp hd
    refine ⟨?_, List.mem_map.mpr ⟨d₀, hd₀, rfl⟩⟩
    obtain ⟨hmem, hmember⟩ := List.mem_filter.mp hd₀
    rw [hdevices]
    exact List.mem_map.mpr ⟨d₀, hmem, if_pos (by simpa using hmember)⟩

theorem JobChanges.removeCluster {clusterId : ℕ} {db db' : Database} (h : DevicesOk db)
    (hremove : removeCluster clusterId db = .ok db') : JobChanges [] db db' [] := by
  unfold ConnectionTopology.removeCluster at hremove
  split_ifs at hremove
  cases hremove
  refine JobChanges.of_map h rfl rfl rfl ?_ ?_ (by simp)
  · intro d _
    split_ifs <;> rfl
  · intro d _
    left
    split_ifs <;> rfl

/-! ## Imports -/

theorem rowOutcome_frame (casing : Casing) (encrypt : String → String) (cells : ImportCells)
    (rowNumber : ℕ) (db : Database) :
    let row := rowOutcome casing encrypt cells rowNumber db
    row.2.devices = db.devices ∧ row.2.importRowResults = db.importRowResults ∧
      row.2.sequences.importBatches = db.sequences.importBatches ∧
      db.sequences.devices ≤ row.2.sequences.devices ∧
      ∀ device, row.1.outcome = .imported device →
        device.id = db.sequences.devices ∧ row.2.sequences.devices = db.sequences.devices + 1 := by
  unfold rowOutcome
  dsimp only
  split
  · exact ⟨rfl, rfl, rfl, le_refl _, by simp⟩
  · split
    · split_ifs
      · exact ⟨rfl, rfl, rfl, le_refl _, by simp⟩
      · exact ⟨rfl, rfl, rfl, le_refl _, by simp⟩
    · split
      · exact ⟨rfl, rfl, rfl, le_refl _, by simp⟩
      · exact ⟨rfl, rfl, rfl, le_refl _, by simp⟩
      · rename_i parsed _ _ _ cluster db' hcluster
        have hframe := (rowCluster_ok hcluster).2.1
        refine ⟨hframe.devices, hframe.importRowResults, hframe.sequence.2, Nat.le_succ _, ?_⟩
        rintro device ⟨⟩
        exact ⟨rfl, rfl⟩

theorem importRow_results (row : ImportedRow) (copy : ImportBatch) (db : Database) :
    (importRow row copy db).1.id = copy.id ∧
      (importRow row copy db).2.importRowResults =
        db.importRowResults ++ [row.result db.sequences.importRowResults copy.id] ∧
      (importRow row copy db).2.sequences.importBatches = db.sequences.importBatches := by
  have hreload : ((db.importBatch? copy.id).getD copy).id = copy.id := by
    cases hfind : db.importBatch? copy.id with
    | none => rfl
    | some found => simpa using List.find?_some hfind
  unfold importRow
  split
  · dsimp only
    split_ifs <;> exact ⟨rfl, rfl, rfl⟩
  · exact ⟨rfl, rfl, rfl⟩
  · exact ⟨rfl, rfl, rfl⟩
  · dsimp only
    split_ifs
    · refine ⟨hreload, ?_, rfl⟩
      rw [hreload]
      rfl
    · exact ⟨rfl, rfl, rfl⟩

/-- The result of a row names the device it imported. -/
theorem ImportedRow.result_imported (row : ImportedRow) (id batchId : ℕ) :
    (row.result id batchId).batchId = batchId ∧
      ((row.result id batchId).importStatus = .imported → ∃ device,
        row.outcome = .imported device ∧ (row.result id batchId).deviceId = some device.id) ∧
      ∀ device, row.outcome = .imported device → (row.result id batchId).importStatus = .imported ∧
        (row.result id batchId).deviceId = some device.id := by
  unfold ImportedRow.result
  cases row.outcome <;> simp

/-- The devices and results that the rows of a file add. -/
structure RowsAdded (batchId : ℕ) (db db' : Database) (new : List Device)
    (results : List ImportRowResult) : Prop where
  devices : db'.devices = db.devices ++ new
  rows : db'.importRowResults = db.importRowResults ++ results
  batches : db'.sequences.importBatches = db.sequences.importBatches
  sequence : db.sequences.devices ≤ db'.sequences.devices
  nodup : (new.map (·.id)).Nodup
  drawn : ∀ d ∈ new, db.sequences.devices ≤ d.id ∧ d.id < db'.sequences.devices
  batch : ∀ r ∈ results, r.batchId = batchId
  named : ∀ r ∈ results, r.importStatus = .imported → ∃ d ∈ new, r.deviceId = some d.id
  recorded : ∀ d ∈ new, ∃ r ∈ results, r.importStatus = .imported ∧ r.deviceId = some d.id

theorem RowsAdded.trans {batchId : ℕ} {db mid db' : Database} {new new' : List Device}
    {results results' : List ImportRowResult} (h : RowsAdded batchId db mid new results)
    (h' : RowsAdded batchId mid db' new' results') :
    RowsAdded batchId db db' (new ++ new') (results ++ results') := by
  have hseq := h.sequence
  have hseq' := h'.sequence
  constructor
  · rw [h'.devices, h.devices, List.append_assoc]
  · rw [h'.rows, h.rows, List.append_assoc]
  · rw [h'.batches, h.batches]
  · omega
  · rw [List.map_append, List.nodup_append]
    refine ⟨h.nodup, h'.nodup, ?_⟩
    intro a ha b hb
    obtain ⟨d, hd, rfl⟩ := List.mem_map.mp ha
    obtain ⟨e, he, rfl⟩ := List.mem_map.mp hb
    have hlt := (h.drawn d hd).2
    have hle := (h'.drawn e he).1
    omega
  · intro d hd
    rcases List.mem_append.mp hd with hd | hd
    · have := h.drawn d hd
      omega
    · have := h'.drawn d hd
      omega
  · intro r hr
    rcases List.mem_append.mp hr with hr | hr
    · exact h.batch r hr
    · exact h'.batch r hr
  · intro r hr himported
    rcases List.mem_append.mp hr with hr | hr
    · obtain ⟨d, hd, hid⟩ := h.named r hr himported
      exact ⟨d, List.mem_append_left _ hd, hid⟩
    · obtain ⟨d, hd, hid⟩ := h'.named r hr himported
      exact ⟨d, List.mem_append_right _ hd, hid⟩
  · intro d hd
    rcases List.mem_append.mp hd with hd | hd
    · obtain ⟨r, hr, hrest⟩ := h.recorded d hd
      exact ⟨r, List.mem_append_left _ hr, hrest⟩
    · obtain ⟨r, hr, hrest⟩ := h'.recorded d hd
      exact ⟨r, List.mem_append_right _ hr, hrest⟩

/-- One row of the file. -/
theorem importRow_added (casing : Casing) (encrypt : String → String) (cells : ImportCells)
    (rowNumber : ℕ) (copy : ImportBatch) (db : Database) :
    let row := rowOutcome casing encrypt cells rowNumber db
    ∃ new results, RowsAdded copy.id db (importRow row.1 copy row.2).2 new results := by
  obtain ⟨hdevices, hrows, hbatches, hseq, hdevice⟩ :=
    rowOutcome_frame casing encrypt cells rowNumber db
  dsimp only
  set row := rowOutcome casing encrypt cells rowNumber db
  obtain ⟨-, -, hseq', hdevices'⟩ := importRow_frame row.1 copy row.2
  obtain ⟨-, hrows', hbatches'⟩ := importRow_results row.1 copy row.2
  obtain ⟨hbatch, hnamed, hrecorded⟩ :=
    row.1.result_imported row.2.sequences.importRowResults copy.id
  set result := row.1.result row.2.sequences.importRowResults copy.id
  refine ⟨row.1.outcome.devices, [result], ?_, ?_, hbatches'.trans hbatches, by omega, ?_, ?_, ?_, ?_, ?_⟩
  · rw [hdevices', hdevices]
  · rw [hrows', hrows]
  · cases row.1.outcome <;> simp [RowOutcome.devices]
  · intro d hd
    obtain ⟨hid, hnext⟩ := hdevice d (RowOutcome.mem_devices.mp hd)
    omega
  · intro r hr
    rw [List.mem_singleton.mp hr]
    exact hbatch
  · intro r hr himported
    rw [List.mem_singleton.mp hr] at himported ⊢
    obtain ⟨device, houtcome, hid⟩ := hnamed himported
    exact ⟨device, RowOutcome.mem_devices.mpr houtcome, hid⟩
  · intro d hd
    exact ⟨result, List.mem_singleton.mpr rfl, hrecorded d (RowOutcome.mem_devices.mp hd)⟩

theorem importRows_added (casing : Casing) (encrypt : String → String) :
    ∀ (rows : List (ℕ × ImportCells)) (copy : ImportBatch) (db : Database),
      ∃ new results, RowsAdded copy.id db (importRows casing encrypt rows copy db).2 new results := by
  intro rows
  induction rows with
  | nil => exact fun copy db => ⟨[], [], by constructor <;> simp [importRows]⟩
  | cons cells rest ih =>
    intro copy db
    obtain ⟨new, results, hrow⟩ := importRow_added casing encrypt cells.2 cells.1 copy db
    set row := rowOutcome casing encrypt cells.2 cells.1 db
    obtain ⟨new', results', hrest⟩ := ih (importRow row.1 copy row.2).1 (importRow row.1 copy row.2).2
    rw [(importRow_results row.1 copy row.2).1] at hrest
    exact ⟨new ++ new', results ++ results', hrow.trans hrest⟩

/-- Every new device is found again among the results of its batch. -/
theorem importDevices_changes (casing : Casing) (encrypt : String → String) (filename : String)
    (rows : List (ℕ × ImportCells)) (wall : Timestamp) {db : Database} (h : DevicesOk db) :
    let imported := importDevices casing encrypt filename rows wall db
    JobChanges [] db imported.2 (importedDevices imported.2 imported.1) := by
  obtain ⟨new, results, hadded⟩ := importRows_added casing encrypt rows
    (createImportBatch filename rows.length db).1 (createImportBatch filename rows.length db).2
  dsimp only
  set imported := importDevices casing encrypt filename rows wall db
  have hdevices : imported.2.devices = db.devices ++ new := hadded.devices
  have hrows : imported.2.importRowResults = db.importRowResults ++ results := hadded.rows
  have hseq : db.sequences.devices ≤ imported.2.sequences.devices := hadded.sequence
  have hdrawn : ∀ d ∈ new, db.sequences.devices ≤ d.id ∧ d.id < imported.2.sequences.devices :=
    hadded.drawn
  have hbatches : imported.2.sequences.importBatches = db.sequences.importBatches + 1 :=
    hadded.batches
  have hbatch : ∀ r ∈ results, r.batchId = db.sequences.importBatches := hadded.batch
  have hnodup : (imported.2.devices.map (·.id)).Nodup := by
    rw [hdevices, List.map_append, List.nodup_append]
    refine ⟨h.ids, hadded.nodup, ?_⟩
    intro a ha b hb
    obtain ⟨d, hd, rfl⟩ := List.mem_map.mp ha
    obtain ⟨e, he, rfl⟩ := List.mem_map.mp hb
    have hlt := h.fresh d hd
    have hle := (hdrawn e he).1
    omega
  -- a result of the new batch is one of the results that were added
  have hfound : ∀ d, d ∈ importedDevices imported.2 db.sequences.importBatches ↔ d ∈ new := by
    intro d
    simp only [importedDevices, List.mem_filterMap, List.mem_filter, Bool.and_eq_true,
      decide_eq_true_eq, hrows, List.mem_append]
    constructor
    · rintro ⟨r, ⟨hr, hrbatch, hrimported⟩, hfind⟩
      have hr : r ∈ results := by
        rcases hr with hr | hr
        · have hlt := h.batches r hr
          omega
        · exact hr
      obtain ⟨e, he, hid⟩ := hadded.named r hr hrimported
      rw [hid] at hfind
      have hmem : e ∈ imported.2.devices := by
        rw [hdevices]
        exact List.mem_append_right _ he
      rw [Option.bind_some, Dict.find?_key_of_mem hnodup hmem] at hfind
      cases hfind
      exact he
    · intro hd
      obtain ⟨r, hr, hrimported, hid⟩ := hadded.recorded d hd
      have hmem : d ∈ imported.2.devices := by
        rw [hdevices]
        exact List.mem_append_right _ hd
      refine ⟨r, ⟨Or.inr hr, hbatch r hr, hrimported⟩, ?_⟩
      rw [hid, Option.bind_some, Dict.find?_key_of_mem hnodup hmem]
  apply JobChanges.of_append h hdevices hadded.nodup hdrawn hseq
  · rw [hrows, hbatches]
    intro r hr
    rcases List.mem_append.mp hr with hr | hr
    · exact Nat.lt_succ_of_lt (h.batches r hr)
    · rw [hbatch r hr]
      exact Nat.lt_succ_self _
  · exact fun d hd => (hfound d).mp hd
  · exact fun d hd => List.mem_map_of_mem ((hfound d).mpr hd)

/-- Every request but a deletion reports the devices whose jobs it changes. -/
theorem performRequest_changes {b : Backend} {db db' : Database} {request : Request}
    {devices : List Device} (h : DevicesOk db)
    (hperform : performRequest b db request = .ok (devices, db'))
    (hdelete : ∀ deviceId wall, request ≠ .deleteDevice deviceId wall) :
    JobChanges (request.deviceIds db) db db' devices := by
  cases request with
  | createDevice payload =>
    obtain ⟨r, hcreate, hr⟩ := Except.map_eq_ok hperform
    cases hr
    exact JobChanges.createDevice h hcreate
  | updateDevice deviceId payload =>
    obtain ⟨r, hupdate, hr⟩ := Except.map_eq_ok hperform
    cases hr
    exact JobChanges.updateDevice h hupdate
  | deleteDevice deviceId wall => exact absurd rfl (hdelete deviceId wall)
  | addCluster payload =>
    obtain ⟨r, hadd, hr⟩ := Except.map_eq_ok hperform
    cases hr
    exact JobChanges.addCluster h hadd
  | editCluster clusterId payload => exact JobChanges.editCluster h hperform
  | removeCluster clusterId =>
    obtain ⟨r, hremove, hr⟩ := Except.map_eq_ok hperform
    cases hr
    exact JobChanges.removeCluster h hremove
  | importDevices filename rows wall =>
    cases hperform
    exact importDevices_changes b.toCasing b.encrypt filename rows wall h

end ConnectionTopology
