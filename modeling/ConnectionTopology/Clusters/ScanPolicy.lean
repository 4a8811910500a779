import ConnectionTopology.Routes.Requests
import ConnectionTopology.ScanQueue.Frames

/-!
# Cluster members follow the scan policy

Joining a cluster copies its scan interval and schedule switch, and editing a cluster
pushes them to its members. A plain update of a member writes the two fields without
looking at the cluster.
-/
namespace ConnectionTopology

/-- The device has the scan interval and the schedule switch of the cluster. -/
def Device.Follows (d : Device) (c : Cluster) : Prop :=
  d.scanIntervalMinutes = c.scanIntervalMinutes ∧ d.scheduledEnabled = c.scheduledEnabled

/-- Every member of a cluster has its scan values. -/
def FollowsPolicy (db : Database) : Prop :=
  ∀ d ∈ db.devices, ∀ c ∈ db.clusters, d.clusterId = some c.id → d.Follows c

instance (d : Device) (c : Cluster) : Decidable (d.Follows c) :=
  inferInstanceAs (Decidable (_ ∧ _))

instance (db : Database) : Decidable (FollowsPolicy db) :=
  inferInstanceAs (Decidable (∀ d ∈ _, ∀ c ∈ _, _ → _))

/-- What the keys of the tables promise: cluster keys are distinct and drawn from the
sequence, and a device refers to a cluster that exists. -/
structure ClustersOk (db : Database) : Prop where
  ids : (db.clusters.map (·.id)).Nodup
  fresh : ∀ c ∈ db.clusters, c.id < db.sequences.clusters
  assigned : ∀ d ∈ db.devices, ∀ id, d.clusterId = some id → ∃ c ∈ db.clusters, c.id = id

/-- An update that leaves the device in its cluster sets no other scan values. -/
def keepsPolicy (db : Database) : Request → Bool
  | .updateDevice deviceId p =>
    p.choosesCluster || db.devices.all fun d => d.id ≠ deviceId || db.clusters.all fun c =>
      d.clusterId ≠ some c.id || (p.scanIntervalMinutes.join.all (· = c.scanIntervalMinutes) &&
        p.scheduledEnabled.join.all (· = c.scheduledEnabled))
  | _ => true

/-- Both together: the cluster of a member exists and is followed. -/
structure PolicyOk (db : Database) : Prop where
  ids : (db.clusters.map (·.id)).Nodup
  fresh : ∀ c ∈ db.clusters, c.id < db.sequences.clusters
  member : ∀ d ∈ db.devices, ∀ id, d.clusterId = some id →
    ∃ c ∈ db.clusters, c.id = id ∧ d.Follows c

theorem PolicyOk.of_follows {db : Database} (hok : ClustersOk db) (h : FollowsPolicy db) :
    PolicyOk db := by
  refine ⟨hok.ids, hok.fresh, ?_⟩
  intro d hd id hid
  obtain ⟨c, hc, rfl⟩ := hok.assigned d hd id hid
  exact ⟨c, hc, rfl, h d hd c hc hid⟩

theorem PolicyOk.follows {db : Database} (h : PolicyOk db) : FollowsPolicy db := by
  intro d hd c hc hid
  obtain ⟨c', hc', hid', hfollows⟩ := h.member d hd c.id hid
  rwa [List.inj_on_of_nodup_map h.ids hc' hc hid'] at hfollows

/-- Only devices change, and each is fine. -/
theorem PolicyOk.setDevices {db db' : Database} (h : PolicyOk db)
    (hclusters : db'.clusters = db.clusters)
    (hseq : db'.sequences.clusters = db.sequences.clusters)
    (hdevices : ∀ d ∈ db'.devices, d ∈ db.devices ∨ ∀ id, d.clusterId = some id →
      ∃ c ∈ db.clusters, c.id = id ∧ d.Follows c) : PolicyOk db' := by
  refine ⟨by rw [hclusters]; exact h.ids, ?_, ?_⟩
  · rw [hclusters, hseq]
    exact h.fresh
  · rw [hclusters]
    intro d hd id hid
    rcases hdevices d hd with hd | hnew
    · exact h.member d hd id hid
    · exact hnew id hid

/-! ## Clusters -/

/-- Clusters are rewritten without touching their keys and scan values. -/
theorem PolicyOk.mapClusters {db db' : Database} (h : PolicyOk db) {f : Cluster → Cluster}
    (hclusters : db'.clusters = db.clusters.map f) (hdevices : db'.devices = db.devices)
    (hseq : db'.sequences.clusters = db.sequences.clusters)
    (hf : ∀ c, (f c).id = c.id ∧ (f c).scanIntervalMinutes = c.scanIntervalMinutes ∧
      (f c).scheduledEnabled = c.scheduledEnabled) : PolicyOk db' := by
  constructor
  · have hids : (db.clusters.map f).map (·.id) = db.clusters.map (·.id) := by
      rw [List.map_map]
      exact List.map_congr_left fun c _ => (hf c).1
    rw [hclusters, hids]
    exact h.ids
  · rw [hclusters, hseq]
    intro c hc
    obtain ⟨c₀, hc₀, rfl⟩ := List.mem_map.mp hc
    rw [(hf c₀).1]
    exact h.fresh c₀ hc₀
  · rw [hclusters, hdevices]
    intro d hd id hid
    obtain ⟨c, hc, rfl, hinterval, henabled⟩ := h.member d hd id hid
    refine ⟨f c, List.mem_map_of_mem hc, (hf c).1, ?_, ?_⟩
    · rw [hinterval, (hf c).2.1]
    · rw [henabled, (hf c).2.2]

theorem replaceInternalNetworks_ok {clusterId : ℕ} {cidrs : List String} {db db' : Database}
    (h : replaceInternalNetworks clusterId cidrs db = .ok db') :
    ∃ networks : Cluster → List String, db' = db.updateCluster clusterId fun c =>
      { c with internalNetworks := networks c } := by
  unfold replaceInternalNetworks at h
  split at h
  · cases h
  · cases h
    exact ⟨_, rfl⟩

/-- A new cluster is added at the end, under the next key. -/
theorem createCluster_ok {casing : Casing} {name : String} {networks : List String} {interval : ℕ}
    {enabled : Bool} {db db' : Database} {id : ℕ}
    (h : createCluster casing name networks interval enabled db = .ok (id, db')) :
    id = db.sequences.clusters ∧ ∃ normalized, ∃ nets : Cluster → List String,
      db' = Database.updateCluster { db with
        clusters := db.clusters ++ [{
          id := id
          name := normalized
          scanIntervalMinutes := interval
          scheduledEnabled := enabled }]
        sequences := { db.sequences with clusters := db.sequences.clusters + 1 } } id
          fun c => { c with internalNetworks := nets c } := by
  unfold createCluster at h
  split at h
  · cases h
  · rename_i normalized _
    split at h
    · cases h
    · cases h
    · split_ifs at h
      dsimp only at h
      split at h
      · cases h
      · rename_i inserted hreplace
        cases h
        obtain ⟨nets, rfl⟩ := replaceInternalNetworks_ok hreplace
        exact ⟨rfl, normalized, nets, rfl⟩

theorem PolicyOk.createCluster {casing : Casing} {name : String} {networks : List String}
    {interval : ℕ} {enabled : Bool} {db db' : Database} {id : ℕ} (h : PolicyOk db)
    (hcreate : createCluster casing name networks interval enabled db = .ok (id, db')) :
    PolicyOk db' := by
  obtain ⟨rfl, normalized, nets, rfl⟩ := createCluster_ok hcreate
  refine PolicyOk.mapClusters ?_ rfl rfl rfl fun c => ?_
  · constructor
    · rw [List.map_append, List.nodup_append]
      refine ⟨h.ids, by simp, ?_⟩
      intro a ha b hb
      obtain ⟨c, hc, rfl⟩ := List.mem_map.mp ha
      have hlt := h.fresh c hc
      simp only [List.map_cons, List.map_nil, List.mem_singleton] at hb
      omega
    · intro c hc
      dsimp only
      rcases List.mem_append.mp hc with hc | hc
      · exact Nat.lt_succ_of_lt (h.fresh c hc)
      · rw [List.mem_singleton.mp hc]
        exact Nat.lt_succ_self _
    · intro d hd id hid
      obtain ⟨c, hc, hrest⟩ := h.member d hd id hid
      exact ⟨c, List.mem_append_left _ hc, hrest⟩
  · split_ifs
    · exact ⟨rfl, rfl, rfl⟩
    · exact ⟨rfl, rfl, rfl⟩

/-- Nothing but clusters and their sequence has changed. -/
def OnlyClusters (db db' : Database) : Prop :=
  db' = { db with
    clusters := db'.clusters
    sequences := { db.sequences with clusters := db'.sequences.clusters } }

theorem OnlyClusters.devices {db db' : Database} (h : OnlyClusters db db') :
    db'.devices = db.devices := by rw [h]

theorem OnlyClusters.importRowResults {db db' : Database} (h : OnlyClusters db db') :
    db'.importRowResults = db.importRowResults := by rw [h]

theorem OnlyClusters.sequence {db db' : Database} (h : OnlyClusters db db') :
    db'.sequences.devices = db.sequences.devices ∧
      db'.sequences.importBatches = db.sequences.importBatches := by
  rw [h]
  exact ⟨rfl, rfl⟩

theorem createCluster_frame {casing : Casing} {name : String} {networks : List String}
    {interval : ℕ} {enabled : Bool} {db db' : Database} {id : ℕ}
    (h : createCluster casing name networks interval enabled db = .ok (id, db')) :
    OnlyClusters db db' := by
  obtain ⟨rfl, normalized, nets, rfl⟩ := createCluster_ok h
  rfl

/-- The chosen cluster exists afterwards. -/
theorem resolveCluster_ok {casing : Casing} {clusterId : Option ℕ} {newName : Option String}
    {db db' : Database} {cluster : Option Cluster}
    (h : resolveCluster casing clusterId newName db = .ok (cluster, db')) :
    (∀ c, cluster = some c → c ∈ db'.clusters) ∧ OnlyClusters db db' ∧
      (PolicyOk db → PolicyOk db') := by
  unfold resolveCluster at h
  split at h
  · split_ifs at h
    split at h
    · cases h
    · rename_i c hfind
      cases h
      refine ⟨?_, rfl, id⟩
      rintro c' ⟨⟩
      exact List.mem_of_find?_eq_some hfind
  · split_ifs at h
    · cases h
      exact ⟨by simp, rfl, id⟩
    · split at h
      · cases h
      · rename_i c hfind
        cases h
        refine ⟨?_, rfl, id⟩
        rintro c' ⟨⟩
        unfold findClusterByName at hfind
        split at hfind
        · cases hfind
        · exact List.mem_of_find?_eq_some (Except.ok.inj hfind)
      · split at h
        · cases h
        · rename_i created hcreate
          cases h
          exact ⟨fun c hc => List.mem_of_find?_eq_some hc, createCluster_frame hcreate,
            fun hp => hp.createCluster hcreate⟩

/-! ## Requests -/

/-- The parts of a successful creation. -/
theorem createDevice_ok {b : Backend} {p : DeviceCreate} {db db' : Database} {device : Device}
    (h : createDevice b p db = .ok (device, db')) :
    ∃ cluster mid, resolveCluster b.toCasing p.clusterId p.newClusterName db = .ok (cluster, mid) ∧
      device = p.device b cluster mid.sequences.devices ∧ db' = mid.insertDevice device := by
  unfold createDevice at h
  split_ifs at h
  split at h
  · cases h
  · split at h
    · cases h
    · rename_i cluster resolved hresolve
      dsimp only at h
      split_ifs at h
      cases h
      exact ⟨cluster, resolved, hresolve, rfl, rfl⟩

theorem PolicyOk.createDevice {b : Backend} {p : DeviceCreate} {db db' : Database} {device : Device}
    (h : PolicyOk db) (hcreate : createDevice b p db = .ok (device, db')) : PolicyOk db' := by
  obtain ⟨cluster, mid, hresolve, rfl, rfl⟩ := createDevice_ok hcreate
  obtain ⟨hmem, -, hkeep⟩ := resolveCluster_ok hresolve
  refine (hkeep h).setDevices rfl rfl ?_
  intro d hd
  rcases List.mem_append.mp hd with hd | hd
  · exact Or.inl hd
  · right
    rw [List.mem_singleton.mp hd]
    intro id hid
    cases cluster with
    | none => cases hid
    | some c =>
      cases hid
      exact ⟨c, hmem c rfl, rfl, rfl, rfl⟩

/-- What a flush writes into the fields of the policy. -/
theorem flush_policy {x : DeviceDraft} {d row : Device} (h : x.flush d = some row) :
    row.id = d.id ∧ row.clusterId = x.clusterId ∧
      x.scanIntervalMinutes = some row.scanIntervalMinutes ∧
      x.scheduledEnabled = some row.scheduledEnabled := by
  unfold DeviceDraft.flush at h
  split at h
  · rename_i hinterval henabled
    cases h
    exact ⟨rfl, rfl, hinterval, henabled⟩
  · cases h

theorem withPassword_policy (b : Backend) (p : DeviceUpdate) (d : Device) :
    (p.withPassword b d).id = d.id ∧ (p.withPassword b d).clusterId = d.clusterId ∧
      (p.withPassword b d).scanIntervalMinutes = d.scanIntervalMinutes ∧
      (p.withPassword b d).scheduledEnabled = d.scheduledEnabled := by
  unfold DeviceUpdate.withPassword
  dsimp only
  split_ifs <;> exact ⟨rfl, rfl, rfl, rfl⟩

/-- The draft of an update either follows the cluster it chose, or is the plain one. -/
theorem assignCluster_ok {b : Backend} {p : DeviceUpdate} {x y : DeviceDraft} {d : Device}
    {db db' : Database} (h : p.assignCluster b x d db = .ok (y, db')) :
    OnlyClusters db db' ∧ (PolicyOk db → PolicyOk db') ∧
      ((p.choosesCluster = false ∧ y = x ∧ db' = db) ∨ y.clusterId = none ∨
        ∃ c ∈ db'.clusters, y.clusterId = some c.id ∧
          y.scanIntervalMinutes = some c.scanIntervalMinutes ∧
          y.scheduledEnabled = some c.scheduledEnabled) := by
  unfold DeviceUpdate.assignCluster at h
  split_ifs at h with hchooses
  · split at h
    · cases h
    · rename_i resolved hresolve
      cases h
      obtain ⟨-, hframe, hkeep⟩ := resolveCluster_ok hresolve
      exact ⟨hframe, hkeep, Or.inr (Or.inl rfl)⟩
    · rename_i c resolved hresolve
      obtain ⟨hmem, hframe, hkeep⟩ := resolveCluster_ok hresolve
      split_ifs at h
      cases h
      exact ⟨hframe, hkeep, Or.inr (Or.inr ⟨c, hmem c rfl, rfl, rfl, rfl⟩)⟩
  · cases h
    exact ⟨rfl, id, Or.inl ⟨by simpa using hchooses, rfl, rfl⟩⟩

/-- The parts of a successful update. -/
theorem updateDevice_ok {b : Backend} {deviceId : ℕ} {p : DeviceUpdate} {db db' : Database}
    {device : Device} (h : updateDevice b deviceId p db = .ok (device, db')) :
    ∃ old ∈ db.devices, old.id = deviceId ∧ ∃ draft mid row,
      p.assignCluster b (p.draft old) old db = .ok (draft, mid) ∧ draft.flush old = some row ∧
      device = p.withPassword b row ∧ db' = mid.updateDevice device := by
  unfold updateDevice at h
  split_ifs at h
  split at h
  · cases h
  · rename_i old hold
    split at h
    · cases h
    · split at h
      · cases h
      · rename_i draft mid hassign
        split at h
        · cases h
        · rename_i row hflush
          dsimp only at h
          split_ifs at h
          cases h
          refine ⟨old, List.mem_of_find?_eq_some hold, ?_, draft, mid, row, hassign, hflush, rfl, rfl⟩
          simpa using List.find?_some hold

theorem PolicyOk.updateDevice {b : Backend} {deviceId : ℕ} {p : DeviceUpdate} {db db' : Database}
    {device : Device} (h : PolicyOk db) (hkeeps : keepsPolicy db (.updateDevice deviceId p))
    (hupdate : updateDevice b deviceId p db = .ok (device, db')) : PolicyOk db' := by
  obtain ⟨old, hold, hid, draft, mid, row, hassign, hflush, rfl, rfl⟩ := updateDevice_ok hupdate
  obtain ⟨-, hkeep, hdraft⟩ := assignCluster_ok hassign
  obtain ⟨-, hcluster, hinterval, henabled⟩ := flush_policy hflush
  obtain ⟨-, hcluster', hinterval', henabled'⟩ := withPassword_policy b p row
  refine (hkeep h).setDevices rfl rfl ?_
  intro d hd
  obtain ⟨d₀, hd₀, rfl⟩ := List.mem_map.mp hd
  split_ifs
  · right
    intro id hmember
    rw [hcluster', hcluster] at hmember
    rcases hdraft with ⟨hplain, rfl, rfl⟩ | hnone | ⟨c, hc, hchosen, hi, he⟩
    · -- the device stays in its cluster, so the condition speaks about it
      obtain ⟨c, hc, rfl, hold_interval, hold_enabled⟩ := h.member old hold id hmember
      have hmember' : old.clusterId = some c.id := hmember
      simp only [keepsPolicy, hplain, Bool.false_or, List.all_eq_true, Bool.or_eq_true,
        Bool.and_eq_true, decide_eq_true_eq] at hkeeps
      have hsame := (hkeeps old hold).resolve_left (by simpa using hid)
      have hvalues := (hsame c hc).resolve_left (by simpa using hmember')
      refine ⟨c, hc, rfl, ?_, ?_⟩
      · rw [hinterval']
        change p.scanIntervalMinutes.getD _ = _ at hinterval
        cases hset : p.scanIntervalMinutes with
        | none =>
          rw [hset] at hinterval
          rw [← hold_interval]
          exact (Option.some.inj hinterval).symm
        | some value =>
          rw [hset] at hinterval hvalues
          cases hinterval
          simpa using hvalues.1
      · rw [henabled']
        change p.scheduledEnabled.getD _ = _ at henabled
        cases hset : p.scheduledEnabled with
        | none =>
          rw [hset] at henabled
          rw [← hold_enabled]
          exact (Option.some.inj henabled).symm
        | some value =>
          rw [hset] at henabled hvalues
          cases henabled
          simpa using hvalues.2
    · rw [hnone] at hmember
      cases hmember
    · rw [hchosen] at hmember
      cases hmember
      refine ⟨c, hc, rfl, ?_, ?_⟩
      · rw [hinterval']
        exact Option.some.inj (hinterval.symm.trans hi)
      · rw [henabled']
        exact Option.some.inj (henabled.symm.trans he)
  · exact Or.inl hd₀

theorem cancelDevice_frame (deviceId : ℕ) (wall : Timestamp) (db : Database) :
    (cancelDevice deviceId wall db).2.devices = db.devices ∧
      (cancelDevice deviceId wall db).2.clusters = db.clusters ∧
      (cancelDevice deviceId wall db).2.importRowResults = db.importRowResults ∧
      (cancelDevice deviceId wall db).2.sequences = db.sequences := by
  unfold cancelDevice
  split
  · exact ⟨rfl, rfl, rfl, rfl⟩
  · split_ifs
    · exact ⟨rfl, rfl, rfl, rfl⟩
    · dsimp only
      rw [refreshScanBatches_eq]
      exact ⟨rfl, rfl, rfl, rfl⟩

theorem deleteDevice_ok {deviceId : ℕ} {wall : Timestamp} {db db' : Database}
    (h : deleteDevice deviceId wall db = .ok db') :
    db'.devices = db.devices.filter (·.id ≠ deviceId) ∧ db'.clusters = db.clusters ∧
      db'.importRowResults.map (·.batchId) = db.importRowResults.map (·.batchId) ∧
      db'.sequences = db.sequences := by
  obtain ⟨hdevices, hclusters, hrows, hseq⟩ := cancelDevice_frame deviceId wall db
  unfold deleteDevice at h
  split_ifs at h
  dsimp only at h
  split_ifs at h
  cases h
  refine ⟨?_, hclusters, ?_, hseq⟩
  · rw [← hdevices]
    rfl
  · simp only [Database.dropDevice, hrows, List.map_map]
    apply List.map_congr_left
    intro r _
    simp only [Function.comp_apply]
    split_ifs <;> rfl

theorem PolicyOk.deleteDevice {deviceId : ℕ} {wall : Timestamp} {db db' : Database}
    (h : PolicyOk db) (hdelete : deleteDevice deviceId wall db = .ok db') : PolicyOk db' := by
  obtain ⟨hdevices, hclusters, -, hseq⟩ := deleteDevice_ok hdelete
  apply h.setDevices hclusters (congrArg Sequences.clusters hseq)
  intro d hd
  rw [hdevices] at hd
  exact Or.inl (List.mem_of_mem_filter hd)

/-- One cluster takes new scan values together with its members. -/
theorem PolicyOk.push {db db' : Database} (h : PolicyOk db) {clusterId interval : ℕ}
    {enabled : Bool} {f : Cluster → Cluster} {g : Device → Device}
    (hclusters : db'.clusters = db.clusters.map fun c => if c.id = clusterId then f c else c)
    (hdevices : db'.devices = db.devices.map fun d =>
      if d.clusterId = some clusterId then g d else d)
    (hseq : db'.sequences.clusters = db.sequences.clusters)
    (hf : ∀ c, (f c).id = c.id ∧ (f c).scanIntervalMinutes = interval ∧
      (f c).scheduledEnabled = enabled)
    (hg : ∀ d, (g d).clusterId = d.clusterId ∧ (g d).scanIntervalMinutes = interval ∧
      (g d).scheduledEnabled = enabled) : PolicyOk db' := by
  have hid : ∀ c : Cluster, (if c.id = clusterId then f c else c).id = c.id := by
    intro c
    split_ifs
    · exact (hf c).1
    · rfl
  constructor
  · have hids : (db.clusters.map fun c => if c.id = clusterId then f c else c).map (·.id) =
        db.clusters.map (·.id) := by
      rw [List.map_map]
      exact List.map_congr_left fun c _ => hid c
    rw [hclusters, hids]
    exact h.ids
  · rw [hclusters, hseq]
    intro c hc
    obtain ⟨c₀, hc₀, rfl⟩ := List.mem_map.mp hc
    rw [hid]
    exact h.fresh c₀ hc₀
  · rw [hclusters, hdevices]
    intro d hd id hmember
    obtain ⟨d₀, hd₀, rfl⟩ := List.mem_map.mp hd
    have hmember₀ : d₀.clusterId = some id := by
      split_ifs at hmember
      · rwa [(hg d₀).1] at hmember
      · exact hmember
    obtain ⟨c, hc, rfl, hfollows⟩ := h.member d₀ hd₀ id hmember₀
    refine ⟨_, List.mem_map_of_mem hc, hid c, ?_⟩
    by_cases hc' : c.id = clusterId
    · rw [if_pos hc', if_pos (by rw [hmember₀, hc'])]
      exact ⟨(hg d₀).2.1.trans (hf c).2.1.symm, (hg d₀).2.2.trans (hf c).2.2.symm⟩
    · rw [if_neg hc', if_neg (by rw [hmember₀]; simpa using hc')]
      exact hfollows

theorem PolicyOk.addCluster {b : Backend} {p : ClusterPayload} {db db' : Database}
    (h : PolicyOk db) (hadd : addCluster b p db = .ok db') : PolicyOk db' := by
  unfold ConnectionTopology.addCluster at hadd
  split_ifs at hadd
  split at hadd
  · cases hadd
  · rename_i id created hcreate
    cases hadd
    obtain ⟨rfl, -⟩ := createCluster_ok hcreate
    have hdevices := (createCluster_frame hcreate).devices
    -- the new cluster has no members yet
    have hnone : created.devices.map (fun d =>
        if d.clusterId = some db.sequences.clusters then
          { d with scanIntervalMinutes := p.scanIntervalMinutes, scheduledEnabled := p.scheduledEnabled }
        else d) = created.devices := by
      rw [hdevices]
      nth_rewrite 2 [← List.map_id db.devices]
      apply List.map_congr_left
      intro d hd
      apply if_neg
      intro hmember
      obtain ⟨c, hc, hid, -⟩ := h.member d hd _ hmember
      exact absurd (h.fresh c hc) (by rw [hid]; exact lt_irrefl _)
    exact (h.createCluster hcreate).push rfl hnone.symm rfl
      (fun c => ⟨rfl, rfl, rfl⟩) fun d => ⟨rfl, rfl, rfl⟩

/-- Editing rewrites one cluster and its members, which are the devices it reports. -/
theorem editCluster_ok {b : Backend} {clusterId : ℕ} {p : ClusterPayload} {db db' : Database}
    {members : List Device} (h : editCluster b clusterId p db = .ok (members, db')) :
    let follow := fun d : Device => { d with
      scanIntervalMinutes := p.scanIntervalMinutes
      scheduledEnabled := p.scheduledEnabled }
    members = (db.devices.filter (·.clusterId = some clusterId)).map follow ∧
      db'.devices = db.devices.map (fun d => if d.clusterId = some clusterId then follow d else d) ∧
      db'.sequences = db.sequences ∧ db'.importRowResults = db.importRowResults ∧
      ∃ f : Cluster → Cluster, (∀ c, (f c).id = c.id ∧
          (f c).scanIntervalMinutes = p.scanIntervalMinutes ∧
          (f c).scheduledEnabled = p.scheduledEnabled) ∧
        db'.clusters = db.clusters.map fun c => if c.id = clusterId then f c else c := by
  unfold editCluster at h
  split_ifs at h
  split at h
  · cases h
  · rename_i cluster hfind
    have hid : cluster.id = clusterId := by simpa using List.find?_some hfind
    split at h
    · cases h
    · rename_i normalized _
      split at h
      · cases h
      · cases h
      · split_ifs at h
        split at h
        · cases h
        · rename_i replaced hreplace
          obtain ⟨nets, rfl⟩ := replaceInternalNetworks_ok hreplace
          cases h
          have happlied : (p.applyTo cluster).id = clusterId := hid
          refine ⟨?_, ?_, rfl, rfl, fun c => { p.applyTo c with
            name := normalized
            internalNetworks := nets { p.applyTo c with name := normalized } },
            fun c => ⟨rfl, rfl, rfl⟩, ?_⟩
          · simp only [happlied]
            rfl
          · simp only [happlied]
            rfl
          · simp only [Database.updateCluster, List.map_map]
            apply List.map_congr_left
            intro c _
            by_cases hc : c.id = clusterId
            · have hp : (p.applyTo c).id = clusterId := hc
              simp [hc, hp]
            · simp [hc]

theorem PolicyOk.editCluster {b : Backend} {clusterId : ℕ} {p : ClusterPayload} {db db' : Database}
    {members : List Device} (h : PolicyOk db)
    (hedit : editCluster b clusterId p db = .ok (members, db')) : PolicyOk db' := by
  obtain ⟨-, hdevices, hseq, -, f, hf, hclusters⟩ := editCluster_ok hedit
  exact h.push hclusters hdevices (congrArg Sequences.clusters hseq) hf fun d => ⟨rfl, rfl, rfl⟩

theorem PolicyOk.removeCluster {clusterId : ℕ} {db db' : Database} (h : PolicyOk db)
    (hremove : removeCluster clusterId db = .ok db') : PolicyOk db' := by
  unfold ConnectionTopology.removeCluster at hremove
  split_ifs at hremove
  cases hremove
  constructor
  · exact h.ids.sublist (List.filter_sublist.map _)
  · intro c hc
    exact h.fresh c (List.mem_of_mem_filter hc)
  · intro d hd id hmember
    obtain ⟨d₀, hd₀, rfl⟩ := List.mem_map.mp hd
    by_cases hgone : d₀.clusterId = some clusterId
    · rw [if_pos hgone] at hmember
      cases hmember
    · rw [if_neg hgone] at hmember ⊢
      obtain ⟨c, hc, rfl, hfollows⟩ := h.member d₀ hd₀ id hmember
      refine ⟨c, List.mem_filter.mpr ⟨hc, ?_⟩, rfl, hfollows⟩
      rw [hmember] at hgone
      simpa using hgone

/-! ## Imports -/

theorem rowCluster_ok {casing : Casing} {parsed : ParsedRow} {db db' : Database}
    {cluster : Option Cluster} (h : rowCluster casing parsed db = .ok (cluster, db')) :
    (∀ c, cluster = some c → c ∈ db'.clusters) ∧ OnlyClusters db db' ∧
      (PolicyOk db → PolicyOk db') := by
  unfold rowCluster at h
  split_ifs at h
  · cases h
    exact ⟨by simp, rfl, id⟩
  · split at h
    · cases h
    · rename_i c hfind
      cases h
      refine ⟨?_, rfl, id⟩
      rintro c' ⟨⟩
      unfold findClusterByName at hfind
      split at hfind
      · cases hfind
      · exact List.mem_of_find?_eq_some (Except.ok.inj hfind)
    · split at h
      · cases h
      · rename_i created hcreate
        cases h
        exact ⟨fun c hc => List.mem_of_find?_eq_some hc, createCluster_frame hcreate,
          fun hp => hp.createCluster hcreate⟩

/-- The device of an imported row follows the cluster that the row names. -/
theorem rowOutcome_ok (casing : Casing) (encrypt : String → String) (cells : ImportCells)
    (rowNumber : ℕ) {db : Database} (h : PolicyOk db) :
    let row := rowOutcome casing encrypt cells rowNumber db
    PolicyOk row.2 ∧ ∀ device, row.1.outcome = .imported device → ∀ id, device.clusterId = some id →
        ∃ c ∈ row.2.clusters, c.id = id ∧ device.Follows c := by
  unfold rowOutcome
  dsimp only
  split
  · exact ⟨h, by simp⟩
  · split
    · split_ifs
      · exact ⟨h, by simp⟩
      · exact ⟨h, by simp⟩
    · split
      · exact ⟨h, by simp⟩
      · exact ⟨h, by simp⟩
      · rename_i parsed _ _ _ cluster db' hcluster
        obtain ⟨hmem, -, hkeep⟩ := rowCluster_ok hcluster
        refine ⟨(hkeep h).setDevices rfl rfl fun d hd => Or.inl hd, ?_⟩
        rintro device ⟨⟩ id hid
        cases cluster with
        | none => cases hid
        | some c =>
          cases hid
          exact ⟨c, hmem c rfl, rfl, rfl, rfl⟩

/-- The device that a row adds. -/
def RowOutcome.devices : RowOutcome → List Device
  | .imported device => [device]
  | _ => []

theorem RowOutcome.mem_devices {outcome : RowOutcome} {d : Device} :
    d ∈ outcome.devices ↔ outcome = .imported d := by
  cases outcome <;> simp [RowOutcome.devices, eq_comm]

/-- Writing a row adds its device and nothing else to the inventory. -/
theorem importRow_frame (row : ImportedRow) (copy : ImportBatch) (db : Database) :
    (importRow row copy db).2.clusters = db.clusters ∧
      (importRow row copy db).2.sequences.clusters = db.sequences.clusters ∧
      (importRow row copy db).2.sequences.devices = db.sequences.devices ∧
      (importRow row copy db).2.devices = db.devices ++ row.outcome.devices := by
  unfold importRow
  cases row.outcome with
  | imported device =>
    dsimp only
    split_ifs <;> exact ⟨rfl, rfl, rfl, rfl⟩
  | skipped deviceId => exact ⟨rfl, rfl, rfl, (List.append_nil _).symm⟩
  | annotationConflict deviceId => exact ⟨rfl, rfl, rfl, (List.append_nil _).symm⟩
  | failed failure transactionOpen => exact ⟨rfl, rfl, rfl, (List.append_nil _).symm⟩

theorem PolicyOk.importRows (casing : Casing) (encrypt : String → String) :
    ∀ (rows : List (ℕ × ImportCells)) (copy : ImportBatch) {db : Database}, PolicyOk db →
      PolicyOk (importRows casing encrypt rows copy db).2 := by
  intro rows
  induction rows with
  | nil => exact fun _ _ h => h
  | cons row rest ih =>
    intro copy db h
    obtain ⟨hrow, hdevice⟩ := rowOutcome_ok casing encrypt row.2 row.1 h
    obtain ⟨hclusters, hseq, -, hdevices⟩ :=
      importRow_frame (rowOutcome casing encrypt row.2 row.1 db).1 copy
        (rowOutcome casing encrypt row.2 row.1 db).2
    apply ih
    apply hrow.setDevices hclusters hseq
    intro d hd
    rw [hdevices] at hd
    rcases List.mem_append.mp hd with hd | hd
    · exact Or.inl hd
    · exact Or.inr (hdevice d (RowOutcome.mem_devices.mp hd))

theorem PolicyOk.importDevices (casing : Casing) (encrypt : String → String) (filename : String)
    (rows : List (ℕ × ImportCells)) (wall : Timestamp) {db : Database} (h : PolicyOk db) :
    PolicyOk (importDevices casing encrypt filename rows wall db).2 := by
  have hcreated : PolicyOk (createImportBatch filename rows.length db).2 :=
    h.setDevices rfl rfl fun d hd => Or.inl hd
  exact (hcreated.importRows casing encrypt rows _).setDevices rfl rfl fun d hd => Or.inl hd

/-! ## Every sequence of requests -/

theorem Except.map_eq_ok {ε α β : Type} {f : α → β} {x : Except ε α} {y : β}
    (h : x.map f = .ok y) : ∃ a, x = .ok a ∧ f a = y := by
  cases x with
  | error e => cases h
  | ok a => exact ⟨a, rfl, Except.ok.inj h⟩

theorem PolicyOk.requestStep {b : Backend} {db db' : Database} {request : Request} (h : PolicyOk db)
    (hkeeps : keepsPolicy db request) (hstep : requestStep b db request = some db') :
    PolicyOk db' := by
  unfold ConnectionTopology.requestStep at hstep
  split at hstep
  · cases hstep
    exact h
  · rename_i r hperform
    cases hstep
    cases request with
    | createDevice payload =>
      obtain ⟨r, hcreate, rfl⟩ := Except.map_eq_ok hperform
      exact h.createDevice hcreate
    | updateDevice deviceId payload =>
      obtain ⟨r, hupdate, rfl⟩ := Except.map_eq_ok hperform
      exact h.updateDevice hkeeps hupdate
    | deleteDevice deviceId wall =>
      simp only [performRequest] at hperform
      split at hperform
      · cases hperform
      · rename_i hdelete
        cases hperform
        exact h.deleteDevice hdelete
    | addCluster payload =>
      obtain ⟨r, hadd, rfl⟩ := Except.map_eq_ok hperform
      exact h.addCluster hadd
    | editCluster clusterId payload => exact h.editCluster hperform
    | removeCluster clusterId =>
      obtain ⟨r, hremove, rfl⟩ := Except.map_eq_ok hperform
      exact h.removeCluster hremove
    | importDevices filename rows wall =>
      cases hperform
      exact h.importDevices b.toCasing b.encrypt filename rows wall

/-- After any requests, in any order, every member has the scan values of its cluster,
if no plain update of a member sets other ones. -/
theorem members_follow_the_policy (b : Backend) (requests : List Request) {db db' : Database}
    (hok : ClustersOk db) (hfollows : FollowsPolicy db)
    (hkeeps : Machine.Meets (requestStep b) (fun db r => keepsPolicy db r) db requests)
    (hrun : Machine.run (requestStep b) db requests = some db') : FollowsPolicy db' := by
  apply PolicyOk.follows
  apply Machine.run_invariant_of_meets PolicyOk _ requests db db' _ hkeeps hrun
  · intro s r t h hcond hstep
    exact h.requestStep hcond hstep
  · exact PolicyOk.of_follows hok hfollows

/-- Credentials in clear text, and every connection test succeeds. -/
def plainBackend : Backend where
  lower := String.toLower
  dbLower := String.toLower
  encrypt := id
  decrypt := some
  testConnection := fun _ _ _ _ _ => none

/-- One cluster with one member. -/
def oneMemberDatabase : Database where
  clusters := [{ id := 1, name := "office" }]
  devices := [{ id := 1, name := "web-01", host := "10.0.0.10", clusterId := some 1 }]
  sequences := { clusters := 2, devices := 2 }

theorem oneMemberDatabase_ok : ClustersOk oneMemberDatabase := by
  constructor
  · decide
  · decide
  · intro d hd id hid
    rw [List.mem_singleton.mp hd] at hid
    cases hid
    exact ⟨_, List.mem_singleton.mpr rfl, rfl⟩

/-- The cluster is edited, then its member is renamed. -/
def editThenRename : List Request :=
  [.editCluster 1 { name := "office", scanIntervalMinutes := 12, scheduledEnabled := false },
    .updateDevice 1 { name := some (some "web-02") }]

theorem renamed_member_follows_the_policy :
    ∃ db, Machine.run (requestStep plainBackend) oneMemberDatabase editThenRename = some db ∧
      FollowsPolicy db := by
  obtain ⟨db, hrun⟩ : ∃ db, Machine.run (requestStep plainBackend) oneMemberDatabase editThenRename =
      some db := Option.isSome_iff_exists.mp (by decide +kernel)
  exact ⟨db, hrun, members_follow_the_policy plainBackend editThenRename oneMemberDatabase_ok
    (by decide) (by decide +kernel) hrun⟩

/-- A partial update with nothing but another scan interval is accepted, and the member
no longer has the interval of its cluster. -/
theorem updated_member_leaves_the_policy :
    ClustersOk oneMemberDatabase ∧ FollowsPolicy oneMemberDatabase ∧
      ∃ db, Machine.run (requestStep plainBackend) oneMemberDatabase
        [.updateDevice 1 { scanIntervalMinutes := some (some 30) }] = some db ∧
        ¬ FollowsPolicy db := by
  refine ⟨oneMemberDatabase_ok, by decide, ?_⟩
  have hrun : Machine.run (requestStep plainBackend) oneMemberDatabase
      [.updateDevice 1 { scanIntervalMinutes := some (some 30) }] =
      some { oneMemberDatabase with
        devices := [{
          id := 1
          name := "web-01"
          host := "10.0.0.10"
          clusterId := some 1
          scanIntervalMinutes := 30 }] } := by decide +kernel
  exact ⟨_, hrun, by decide⟩

end ConnectionTopology
