import ConnectionTopology.Topology.Encodings

/-!
# What the sync writes

Every observation that `sync_service_observations` writes stands for the records of its scan
with its service key: the newest of them is the sample, and its sets are their sets. Synced
twice, a scan has the same observations.
-/
namespace ConnectionTopology

/-- `sync_service_observations` for each of the scans, into an empty table. -/
def syncAll (scans : List ScanRun) (db : Database) : Database :=
  scans.foldl (fun db scan => syncServiceObservations scan db) { db with observations := [] }

/-- The rows that `_SYNC_SQL` selects for one scan. -/
def scanObservations (scan : ScanRun) (db : Database) : List ConnectionServiceObservation :=
  (Grouping.groupBy SyncRow.key (syncRows scan.id (scan.id + 1) db)).map fun g =>
    syncObservation g.1 g.2

/-- The record is of the scan and has the service key of the observation. -/
structure ConnectionServiceObservation.Covers (o : ConnectionServiceObservation)
    (r : ConnectionRecord) : Prop where
  scan : r.scanRunId = o.scanRunId
  protocol : r.protocol = o.protocol
  remoteIp : r.remoteIp = some o.remoteIp
  remotePort : r.remotePort.getD 0 = o.remotePort
  processName : r.processName.getD "" = o.processName

/-- Values that survive the coalesced key columns and the separated sets. -/
structure ConnectionRecord.WellFormed (r : ConnectionRecord) : Prop where
  localIp : r.localIp ≠ ""
  comma : ',' ∉ r.localIp.toList
  remotePort : ∀ p, r.remotePort = some p → 0 < p
  processName : ∀ name, r.processName = some name → name ≠ ""

/-- What an observation says about the records that it covers. -/
structure SyncedFrom (records : List ConnectionRecord) (scan : ScanRun)
    (o : ConnectionServiceObservation) : Prop where
  scanId : o.scanRunId = scan.id
  device : o.deviceId = scan.deviceId
  startedAt : o.startedAt = scan.startedAt
  sample : ∃ r ∈ records, o.Covers r ∧ r.id = o.sampleConnectionId
  newest : ∀ r ∈ records, o.Covers r → r.id ≤ o.sampleConnectionId
  localIps_ne : o.localIps ≠ ""
  localIps : ∀ text, text ∈ Text.split ',' o.localIps ↔ ∃ r ∈ records, o.Covers r ∧ r.localIp = text
  localPorts_ne : o.localPorts ≠ ""
  localPorts : ∀ text, text ∈ Text.split ',' o.localPorts ↔
    ∃ r ∈ records, o.Covers r ∧ toString r.localPort = text
  pids_ne : ∀ v, o.pids = some v → v ≠ ""
  pids : ∀ text, (∃ v, o.pids = some v ∧ text ∈ Text.split ',' v) ↔
    ∃ r ∈ records, o.Covers r ∧ ∃ pid, r.pid = some pid ∧ toString pid = text
  hostname : ∀ h, o.remoteHostname = some h → ∃ r ∈ records, o.Covers r ∧ r.remoteHostname = some h
  noHostname : o.remoteHostname = none → ∀ r ∈ records, o.Covers r → r.remoteHostname = none

variable {db : Database} {scan : ScanRun}

theorem mem_syncRows {lower upper : ℕ} {row : SyncRow} :
    row ∈ syncRows lower upper db ↔
      row.record ∈ db.connectionRecords ∧ row.record.remoteIp = some row.remoteIp ∧
        row.scan ∈ db.scanRuns ∧ row.scan.id = row.record.scanRunId ∧ lower ≤ row.scan.id ∧
        row.scan.id < upper ∧ row.scan.status = .success := by
  unfold syncRows
  rw [List.mem_flatMap]
  constructor
  · rintro ⟨record, hrecord, hrow⟩
    split at hrow
    · cases hrow
    · rename_i remoteIp hremote
      obtain ⟨scan, hscan, rfl⟩ := List.mem_map.mp hrow
      simp only [List.mem_filter, Bool.and_eq_true, decide_eq_true_eq] at hscan
      obtain ⟨hmem, ⟨⟨hid, hlower⟩, hupper⟩, hstatus⟩ := hscan
      exact ⟨hrecord, hremote, hmem, hid, hlower, hupper, hstatus⟩
  · rintro ⟨hrecord, hremote, hscan, hid, hlower, hupper, hstatus⟩
    refine ⟨row.record, hrecord, ?_⟩
    rw [hremote]
    refine List.mem_map.mpr ⟨row.scan, ?_, rfl⟩
    simp only [List.mem_filter, Bool.and_eq_true, decide_eq_true_eq]
    exact ⟨hscan, ⟨⟨hid, hlower⟩, hupper⟩, hstatus⟩

/-- The rows of a group are the covered records. -/
theorem mem_group_iff (hids : (db.scanRuns.map (·.id)).Nodup) (hscan : scan ∈ db.scanRuns)
    (hsuccess : scan.status = .success) {key : SyncKey} {group : List SyncRow}
    (hgroup : (key, group) ∈ Grouping.groupBy SyncRow.key (syncRows scan.id (scan.id + 1) db)) :
    (key.scanRunId = scan.id ∧ key.deviceId = scan.deviceId ∧ key.startedAt = scan.startedAt) ∧
      ∀ r, (∃ row ∈ group, row.record = r) ↔
        r ∈ db.connectionRecords ∧ (syncObservation key group).Covers r := by
  obtain ⟨⟨first, hfirst, hkey⟩, rfl⟩ := Grouping.mem_groupBy.mp hgroup
  have hsame : ∀ row ∈ syncRows scan.id (scan.id + 1) db, row.scan = scan := by
    intro row hrow
    obtain ⟨-, -, hmem, -, hlower, hupper, -⟩ := mem_syncRows.mp hrow
    exact List.inj_on_of_nodup_map hids hmem hscan (by omega)
  have hof : key.scanRunId = scan.id ∧ key.deviceId = scan.deviceId ∧
      key.startedAt = scan.startedAt := by
    subst hkey
    simp only [SyncRow.key, hsame first hfirst, and_self]
  refine ⟨hof, ?_⟩
  intro r
  constructor
  · rintro ⟨row, hrow, rfl⟩
    obtain ⟨hrow, hrowKey⟩ := List.mem_filter.mp hrow
    obtain ⟨hrecord, hremote, -, hid, -⟩ := mem_syncRows.mp hrow
    have hrowKey : row.key = key := by simpa using hrowKey
    subst hrowKey
    exact ⟨hrecord, hid.symm, rfl, hremote, rfl, rfl⟩
  · rintro ⟨hrecord, hcovers⟩
    refine ⟨⟨scan, r, key.remoteIp⟩, ?_, rfl⟩
    rw [List.mem_filter]
    constructor
    · refine mem_syncRows.mpr ⟨hrecord, hcovers.remoteIp, hscan, ?_, le_rfl, Nat.lt_succ_self _, hsuccess⟩
      exact (hcovers.scan.trans hof.1).symm
    · obtain ⟨hid, hdevice, hstarted⟩ := hof
      obtain ⟨-, hprotocol, -, hport, hprocess⟩ := hcovers
      rw [decide_eq_true_eq]
      cases key
      simp only [SyncRow.key, SyncKey.mk.injEq, true_and]
      exact ⟨hid.symm, hdevice.symm, hstarted.symm, hprotocol, hport, hprocess⟩

/-- Where the value of an aggregate over a group comes from. -/
theorem exists_mem_map_iff {group : List SyncRow} {β : Type} {f : ConnectionRecord → β} {b : β} :
    b ∈ group.map (fun row => f row.record) ↔ ∃ r, (∃ row ∈ group, row.record = r) ∧ f r = b := by
  rw [List.mem_map]
  constructor
  · rintro ⟨row, hrow, rfl⟩
    exact ⟨row.record, ⟨row, hrow, rfl⟩, rfl⟩
  · rintro ⟨r, ⟨row, hrow, rfl⟩, rfl⟩
    exact ⟨row, hrow, rfl⟩

theorem exists_mem_filterMap_iff {group : List SyncRow} {β : Type} {f : ConnectionRecord → Option β}
    {b : β} :
    b ∈ group.filterMap (fun row => f row.record) ↔
      ∃ r, (∃ row ∈ group, row.record = r) ∧ f r = some b := by
  rw [List.mem_filterMap]
  constructor
  · rintro ⟨row, hrow, hb⟩
    exact ⟨row.record, ⟨row, hrow, rfl⟩, hb⟩
  · rintro ⟨r, ⟨row, hrow, rfl⟩, hb⟩
    exact ⟨row, hrow, hb⟩

/-- Every record of the scan with a remote address is covered. -/
theorem exists_covers (hids : (db.scanRuns.map (·.id)).Nodup) (hscan : scan ∈ db.scanRuns)
    (hsuccess : scan.status = .success) {r : ConnectionRecord} (hr : r ∈ db.connectionRecords)
    (hrun : r.scanRunId = scan.id) {remoteIp : String} (hremote : r.remoteIp = some remoteIp) :
    ∃ o ∈ scanObservations scan db, o.Covers r := by
  let row : SyncRow := ⟨scan, r, remoteIp⟩
  have hrow : row ∈ syncRows scan.id (scan.id + 1) db :=
    mem_syncRows.mpr ⟨hr, hremote, hscan, hrun.symm, le_rfl, Nat.lt_succ_self _, hsuccess⟩
  have hgroup : (row.key, (syncRows scan.id (scan.id + 1) db).filter (·.key = row.key)) ∈
      Grouping.groupBy SyncRow.key (syncRows scan.id (scan.id + 1) db) :=
    Grouping.mem_groupBy.mpr ⟨⟨row, hrow, rfl⟩, rfl⟩
  refine ⟨_, List.mem_map.mpr ⟨_, hgroup, rfl⟩, ?_⟩
  obtain ⟨-, hcovered⟩ := mem_group_iff hids hscan hsuccess hgroup
  exact ((hcovered r).mp ⟨row, List.mem_filter.mpr ⟨hrow, by simp⟩, rfl⟩).2

theorem syncedFrom_of_mem (hids : (db.scanRuns.map (·.id)).Nodup) (hscan : scan ∈ db.scanRuns)
    (hsuccess : scan.status = .success)
    (hwell : ∀ r ∈ db.connectionRecords, r.scanRunId = scan.id → r.WellFormed)
    {o : ConnectionServiceObservation} (ho : o ∈ scanObservations scan db) :
    SyncedFrom db.connectionRecords scan o := by
  obtain ⟨⟨key, group⟩, hgroup, rfl⟩ := List.mem_map.mp ho
  obtain ⟨⟨hid, hdevice, hstarted⟩, hrows⟩ := mem_group_iff hids hscan hsuccess hgroup
  have hne := Grouping.ne_nil_of_mem_groupBy hgroup
  have hmap : ∀ {β : Type} {f : ConnectionRecord → β} {b : β},
      b ∈ group.map (fun row => f row.record) ↔
        ∃ r ∈ db.connectionRecords, (syncObservation key group).Covers r ∧ f r = b := by
    intro β f b
    simp only [exists_mem_map_iff, hrows, and_assoc]
  have hfilterMap : ∀ {β : Type} {f : ConnectionRecord → Option β} {b : β},
      b ∈ group.filterMap (fun row => f row.record) ↔
        ∃ r ∈ db.connectionRecords, (syncObservation key group).Covers r ∧ f r = some b := by
    intro β f b
    simp only [exists_mem_filterMap_iff, hrows, and_assoc]
  have hips : ∀ text ∈ group.map (fun row => row.record.localIp), text ≠ "" ∧ ',' ∉ text.toList := by
    intro text htext
    obtain ⟨r, hr, hcovers, rfl⟩ := hmap.mp htext
    have hrow := hwell r hr (hcovers.scan.trans hid)
    exact ⟨hrow.localIp, hrow.comma⟩
  have hports : ∀ text ∈ group.map (fun row => toString row.record.localPort),
      text ≠ "" ∧ ',' ∉ text.toList := by
    intro text htext
    obtain ⟨row, -, rfl⟩ := List.mem_map.mp htext
    exact ⟨Text.toString_int_ne_empty _, Text.not_comma_toString _⟩
  have hpids : ∀ text ∈ group.filterMap (fun row => row.record.pid.map toString),
      text ≠ "" ∧ ',' ∉ text.toList := by
    intro text htext
    obtain ⟨row, -, htext⟩ := List.mem_filterMap.mp htext
    obtain ⟨pid, -, rfl⟩ := Option.map_eq_some_iff.mp htext
    exact ⟨Text.toString_int_ne_empty _, Text.not_comma_toString _⟩
  have hmapNe : ∀ {β : Type} {f : SyncRow → β}, group.map f ≠ [] := by
    intro β f
    simpa using hne
  obtain ⟨newest, hnewest⟩ := Option.ne_none_iff_exists'.mp fun h =>
    hmapNe (f := fun row => row.record.id) (List.max?_eq_none_iff.mp h)
  have hsampleId : (syncObservation key group).sampleConnectionId = newest := by
    simp only [syncObservation, hnewest, Option.getD_some]
  obtain ⟨hnewestMem, hnewestLe⟩ := List.max?_eq_some_iff.mp hnewest
  have hsorted : ∀ {h : String},
      h ∈ (group.insertionSort fun a b => b.record.id ≤ a.record.id).filterMap
          (·.record.remoteHostname) ↔
        ∃ r ∈ db.connectionRecords, (syncObservation key group).Covers r ∧
          r.remoteHostname = some h := by
    intro h
    rw [← hfilterMap, List.mem_filterMap, List.mem_filterMap]
    simp only [List.mem_insertionSort]
  constructor
  case scanId => exact hid
  case device => exact hdevice
  case startedAt => exact hstarted
  case sample =>
    obtain ⟨r, hr, hcovers, hrid⟩ := hmap.mp hnewestMem
    exact ⟨r, hr, hcovers, hrid.trans hsampleId.symm⟩
  case newest =>
    intro r hr hcovers
    rw [hsampleId]
    exact hnewestLe r.id (hmap.mpr ⟨r, hr, hcovers, rfl⟩)
  case localIps_ne => exact stringAgg_ne_empty hmapNe fun text htext => (hips text htext).1
  case localIps =>
    intro text
    exact (mem_split_stringAgg hmapNe fun text htext => (hips text htext).2).trans hmap
  case localPorts_ne => exact stringAgg_ne_empty hmapNe fun text htext => (hports text htext).1
  case localPorts =>
    intro text
    exact (mem_split_stringAgg hmapNe fun text htext => (hports text htext).2).trans
      (hmap (f := fun r => toString r.localPort))
  case pids_ne =>
    intro v hv
    have hpidsNe : group.filterMap (fun row => row.record.pid.map toString) ≠ [] := by
      intro hnil
      simp [syncObservation, hnil, stringAggDistinct_eq] at hv
    have hagg := stringAgg_ne_empty hpidsNe fun text htext => (hpids text htext).1
    have hv : stringAggDistinct (group.filterMap fun row => row.record.pid.map toString) = some v :=
      hv
    rwa [hv] at hagg
  case pids =>
    intro text
    have hcovered : (∃ r ∈ db.connectionRecords, (syncObservation key group).Covers r ∧
        ∃ pid, r.pid = some pid ∧ toString pid = text) ↔
        text ∈ group.filterMap fun row => row.record.pid.map toString := by
      rw [hfilterMap (f := fun r => r.pid.map toString)]
      simp only [Option.map_eq_some_iff]
    rw [hcovered]
    by_cases hpidsNe : group.filterMap (fun row => row.record.pid.map toString) = []
    · have hnone : (syncObservation key group).pids = none := by
        simp [syncObservation, hpidsNe, stringAggDistinct_eq]
      simp [hnone, hpidsNe]
    · rw [← mem_split_stringAgg hpidsNe fun text htext => (hpids text htext).2]
      have hsome : (syncObservation key group).pids =
          some ((stringAggDistinct (group.filterMap fun row => row.record.pid.map toString)).getD "") := by
        simp [syncObservation, stringAggDistinct_eq, hpidsNe]
      rw [hsome]
      simp
  case hostname =>
    intro h hh
    exact hsorted.mp (List.mem_of_head? hh)
  case noHostname =>
    intro hnone r hr hcovers
    have hnil := List.head?_eq_none_iff.mp hnone
    cases hhost : r.remoteHostname with
    | none => rfl
    | some h =>
      have hmem := hsorted.mpr ⟨r, hr, hcovers, hhost⟩
      rw [hnil] at hmem
      cases hmem

/-! ## The whole table -/

theorem mem_foldl_insertObservation {rows table : List ConnectionServiceObservation}
    {o : ConnectionServiceObservation} (h : o ∈ rows.foldl insertObservation table) :
    o ∈ table ∨ o ∈ rows := by
  induction rows generalizing table with
  | nil => exact Or.inl h
  | cons row rows ih =>
    rcases ih h with htable | hrows
    · unfold insertObservation at htable
      split_ifs at htable
      · exact Or.inl htable
      · rcases List.mem_append.mp htable with htable | hrow
        · exact Or.inl htable
        · exact Or.inr (List.mem_cons.mpr (Or.inl (List.mem_singleton.mp hrow)))
    · exact Or.inr (List.mem_cons_of_mem _ hrows)

/-- The rows of the table stay, and every new key is there afterwards. -/
theorem foldl_insertObservation_keys {rows table : List ConnectionServiceObservation}
    {o : ConnectionServiceObservation} (h : o ∈ table ∨ o ∈ rows) :
    ∃ o' ∈ rows.foldl insertObservation table, o'.uniqueKey = o.uniqueKey := by
  induction rows generalizing table o with
  | nil => exact ⟨o, h.resolve_right (by simp), rfl⟩
  | cons row rows ih =>
    rw [List.foldl_cons]
    have hrow : ∃ o' ∈ insertObservation table row, o'.uniqueKey = row.uniqueKey := by
      unfold insertObservation
      split_ifs with hany
      · obtain ⟨o', ho', hkey⟩ := List.any_eq_true.mp hany
        exact ⟨o', ho', by simpa using hkey⟩
      · exact ⟨row, by simp, rfl⟩
    have htable : ∀ o ∈ table, o ∈ insertObservation table row := by
      intro o ho
      unfold insertObservation
      split_ifs
      · exact ho
      · exact List.mem_append_left _ ho
    rcases h with ho | ho
    · exact ih (Or.inl (htable o ho))
    · rcases List.mem_cons.mp ho with rfl | ho
      · obtain ⟨o', ho', hkey⟩ := hrow
        obtain ⟨o'', ho'', hkey'⟩ := ih (Or.inl ho')
        exact ⟨o'', ho'', hkey'.trans hkey⟩
      · exact ih (Or.inr ho)

/-- One key of a scan has one observation. -/
theorem scanObservations_unique (hids : (db.scanRuns.map (·.id)).Nodup) {scan' : ScanRun}
    (hscan : scan ∈ db.scanRuns) (hscan' : scan' ∈ db.scanRuns) (hsuccess : scan.status = .success)
    (hsuccess' : scan'.status = .success) {o o' : ConnectionServiceObservation}
    (ho : o ∈ scanObservations scan db) (ho' : o' ∈ scanObservations scan' db)
    (hkey : o.uniqueKey = o'.uniqueKey) : o = o' := by
  obtain ⟨⟨key, group⟩, hgroup, rfl⟩ := List.mem_map.mp ho
  obtain ⟨⟨key', group'⟩, hgroup', rfl⟩ := List.mem_map.mp ho'
  obtain ⟨⟨hid, hdevice, hstarted⟩, -⟩ := mem_group_iff hids hscan hsuccess hgroup
  obtain ⟨⟨hid', hdevice', hstarted'⟩, -⟩ := mem_group_iff hids hscan' hsuccess' hgroup'
  simp only [ConnectionServiceObservation.uniqueKey, syncObservation, Prod.mk.injEq] at hkey
  obtain ⟨hscanId, hprotocol, hremote, hport, hprocess⟩ := hkey
  obtain rfl : scan = scan' :=
    List.inj_on_of_nodup_map hids hscan hscan' (hid.symm.trans (hscanId.trans hid'))
  have hkeys : key = key' := by
    cases key
    cases key'
    simp only [SyncKey.mk.injEq]
    exact ⟨hscanId, hdevice.trans hdevice'.symm, hstarted.trans hstarted'.symm, hprotocol, hremote,
      hport, hprocess⟩
  subst hkeys
  rw [(Grouping.mem_groupBy.mp hgroup).2, (Grouping.mem_groupBy.mp hgroup').2]

theorem syncServiceObservations_observations (scan : ScanRun) (db : Database) :
    (syncServiceObservations scan db).observations =
      if scan.status = .success then (scanObservations scan db).foldl insertObservation db.observations
      else db.observations := by
  unfold syncServiceObservations
  split_ifs <;> rfl

/-- Everything but the observations stays. -/
theorem syncAll_frame (scans : List ScanRun) (db : Database) :
    syncAll scans db = { db with observations := (syncAll scans db).observations } := by
  unfold syncAll
  generalize ([] : List ConnectionServiceObservation) = table
  induction scans generalizing table with
  | nil => rfl
  | cons scan scans ih =>
    rw [List.foldl_cons, syncServiceObservations_eq]
    exact ih _

/-- The observation of a successful scan. -/
def IsSynced (db : Database) (o : ConnectionServiceObservation) : Prop :=
  ∃ scan ∈ db.scanRuns, scan.status = .success ∧ o ∈ scanObservations scan db

theorem IsSynced.eq_of_uniqueKey (hids : (db.scanRuns.map (·.id)).Nodup)
    {o o' : ConnectionServiceObservation} (ho : IsSynced db o) (ho' : IsSynced db o')
    (hkey : o.uniqueKey = o'.uniqueKey) : o = o' := by
  obtain ⟨scan, hscan, hsuccess, hmem⟩ := ho
  obtain ⟨scan', hscan', hsuccess', hmem'⟩ := ho'
  exact scanObservations_unique hids hscan hscan' hsuccess hsuccess' hmem hmem' hkey

/-- One sync adds the observations of its scan to a table of such rows. -/
theorem mem_sync (hids : (db.scanRuns.map (·.id)).Nodup) (hscan : scan ∈ db.scanRuns)
    {table : List ConnectionServiceObservation} (htable : ∀ o ∈ table, IsSynced db o)
    {o : ConnectionServiceObservation} :
    o ∈ (syncServiceObservations scan { db with observations := table }).observations ↔
      o ∈ table ∨ (scan.status = .success ∧ o ∈ scanObservations scan db) := by
  rw [syncServiceObservations_observations]
  split_ifs with hsuccess
  · change o ∈ (scanObservations scan db).foldl insertObservation table ↔ _
    constructor
    · intro ho
      exact (mem_foldl_insertObservation ho).imp_right fun ho => ⟨hsuccess, ho⟩
    · intro ho
      have hrows : ∀ o, o ∈ table ∨ o ∈ scanObservations scan db → IsSynced db o := by
        rintro o (ho | ho)
        · exact htable o ho
        · exact ⟨scan, hscan, hsuccess, ho⟩
      have ho := ho.imp_right And.right
      obtain ⟨o', ho', hkey⟩ := foldl_insertObservation_keys ho
      rwa [← (hrows o' (mem_foldl_insertObservation ho')).eq_of_uniqueKey hids (hrows o ho) hkey]
  · simp [hsuccess]

/-- The table holds the observations of the successful scans, and nothing else. -/
theorem mem_syncAll (hids : (db.scanRuns.map (·.id)).Nodup) {scans : List ScanRun}
    (hscans : ∀ scan ∈ scans, scan ∈ db.scanRuns) {o : ConnectionServiceObservation} :
    o ∈ (syncAll scans db).observations ↔
      ∃ scan ∈ scans, scan.status = .success ∧ o ∈ scanObservations scan db := by
  have hloop : ∀ table : List ConnectionServiceObservation, (∀ o ∈ table, IsSynced db o) →
      (o ∈ (scans.foldl (fun db scan => syncServiceObservations scan db)
          { db with observations := table }).observations ↔
        o ∈ table ∨ ∃ scan ∈ scans, scan.status = .success ∧ o ∈ scanObservations scan db) := by
    induction scans with
    | nil => simp
    | cons scan scans ih =>
      intro table htable
      have hscan : scan ∈ db.scanRuns := hscans scan (by simp)
      have hnext : ∀ o ∈ (syncServiceObservations scan
          { db with observations := table }).observations, IsSynced db o := by
        intro o ho
        rcases (mem_sync hids hscan htable).mp ho with ho | ⟨hsuccess, ho⟩
        · exact htable o ho
        · exact ⟨scan, hscan, hsuccess, ho⟩
      rw [List.foldl_cons, syncServiceObservations_eq]
      rw [ih (fun s hs => hscans s (by simp [hs])) _ hnext, mem_sync hids hscan htable, or_assoc]
      simp
  simpa [syncAll] using hloop [] (by simp)

/-- A database whose observations were synced from well-formed records, some of which may have
been purged since. The numbers fit their columns. -/
structure SyncedDatabase (scans : List ScanRun) (records : List ConnectionRecord)
    (db : Database) : Prop where
  scanIds : (db.scanRuns.map (·.id)).Nodup
  recordIds : (records.map (·.id)).Nodup
  known : ∀ s ∈ scans, s ∈ db.scanRuns
  present : db.connectionRecords.Sublist records
  wellFormed : ∀ s ∈ scans, ∀ r ∈ records, r.scanRunId = s.id → r.WellFormed
  scanFits : ∀ s ∈ db.scanRuns, FitsMarker s.startedAt ∧ FitsMarker s.id
  recordFits : ∀ r ∈ records, FitsMarker r.id
  synced : db.observations =
    (syncAll scans { db with connectionRecords := records }).observations

namespace SyncedDatabase

variable {scans : List ScanRun} {records : List ConnectionRecord}

theorem syncedFrom (h : SyncedDatabase scans records db) {o : ConnectionServiceObservation}
    (ho : o ∈ db.observations) :
    ∃ scan ∈ scans, scan ∈ db.scanRuns ∧ scan.status = .success ∧ SyncedFrom records scan o := by
  let original : Database := { db with connectionRecords := records }
  have hids : (original.scanRuns.map (·.id)).Nodup := h.scanIds
  have hknown : ∀ s ∈ scans, s ∈ original.scanRuns := h.known
  rw [h.synced] at ho
  obtain ⟨scan, hscan, hsuccess, ho⟩ := (mem_syncAll hids hknown).mp ho
  refine ⟨scan, hscan, h.known scan hscan, hsuccess, ?_⟩
  exact syncedFrom_of_mem hids (hknown scan hscan) hsuccess (h.wellFormed scan hscan) ho

theorem exists_covers (h : SyncedDatabase scans records db) {scan : ScanRun} (hscan : scan ∈ scans)
    (hsuccess : scan.status = .success) {r : ConnectionRecord} (hr : r ∈ records)
    (hrun : r.scanRunId = scan.id) {remoteIp : String} (hremote : r.remoteIp = some remoteIp) :
    ∃ o ∈ db.observations, SyncedFrom records scan o ∧ o.Covers r := by
  let original : Database := { db with connectionRecords := records }
  have hids : (original.scanRuns.map (·.id)).Nodup := h.scanIds
  have hknown : ∀ s ∈ scans, s ∈ original.scanRuns := h.known
  have hr : r ∈ original.connectionRecords := hr
  obtain ⟨o, ho, hcovers⟩ :=
    ConnectionTopology.exists_covers hids (hknown scan hscan) hsuccess hr hrun hremote
  refine ⟨o, ?_, ?_, hcovers⟩
  · rw [h.synced]
    exact (mem_syncAll hids hknown).mpr ⟨scan, hscan, hsuccess, ho⟩
  · exact syncedFrom_of_mem hids (hknown scan hscan) hsuccess (h.wellFormed scan hscan) ho

theorem fits (h : SyncedDatabase scans records db) {o : ConnectionServiceObservation}
    (ho : o ∈ db.observations) :
    FitsMarker o.startedAt ∧ FitsMarker o.scanRunId ∧ FitsMarker o.sampleConnectionId := by
  obtain ⟨scan, -, hscan, -, hfrom⟩ := h.syncedFrom ho
  obtain ⟨r, hr, -, hid⟩ := hfrom.sample
  rw [hfrom.startedAt, hfrom.scanId, ← hid]
  exact ⟨(h.scanFits scan hscan).1, (h.scanFits scan hscan).2, h.recordFits r hr⟩

/-- The sample row, if it is still there, is a covered record. -/
theorem covers_sample (h : SyncedDatabase scans records db) {o : ConnectionServiceObservation}
    (ho : o ∈ db.observations) {r : ConnectionRecord} (hr : r ∈ db.connectionRecords)
    (hid : r.id = o.sampleConnectionId) : o.Covers r := by
  obtain ⟨scan, -, -, -, hfrom⟩ := h.syncedFrom ho
  obtain ⟨r₀, hr₀, hcovers, hid₀⟩ := hfrom.sample
  obtain rfl : r = r₀ :=
    List.inj_on_of_nodup_map h.recordIds (h.present.subset hr) hr₀ (hid.trans hid₀.symm)
  exact hcovers

end SyncedDatabase

end ConnectionTopology
