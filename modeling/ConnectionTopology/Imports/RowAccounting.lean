import ConnectionTopology.Imports.ImportRace
import ConnectionTopology.Library.Results
import ConnectionTopology.Scheduler.WantedJobs

/-!
# The account of an import

Every data row is a transaction of its own, and so is every error that is recorded. Other
transactions may commit between the rows, and their rows may make a row of the file violate a
constraint; as long as they leave the batch alone, the object of the session and the stored
batch stay the same, and the counters are those of the results.
-/
namespace ConnectionTopology

variable {casing : Casing} {encrypt : String → String}

/-! ## Rows of any width -/

theorem valueAt_eq {values : List Cell} {i : ℕ} (h : i < values.length) :
    valueAt values i = .ok (values.getD i .empty) := by
  simp [valueAt, h]

theorem mapError_bind {α β ε δ : Type} (f : ε → δ) (x : Except ε α) (g : α → Except ε β) :
    (x >>= g).mapError f = x.mapError f >>= fun a => (g a).mapError f := by
  cases x <;> rfl

theorem ok_bind {α β ε : Type} (a : α) (g : α → Except ε β) : (Except.ok a >>= g) = g a := rfl

theorem bind_ne_ok {α β ε : Type} {g : α → Except ε β} {b : β} (h : ∀ a, g a ≠ .ok b)
    (x : Except ε α) : (x >>= g) ≠ .ok b := by
  cases x with
  | error e => exact nofun
  | ok a => exact h a

/-- A row that is wide enough is parsed by its cells. -/
theorem parseValues_eq {values : List Cell} (h : 9 ≤ values.length) (lower : String → String) :
    parseValues lower values = (parseRow lower (.ofValues values)).mapError .validation := by
  have hvalue : ∀ i ≤ 8, valueAt values i = .ok (values.getD i .empty) :=
    fun i hi => valueAt_eq (by omega)
  unfold parseValues parseRow
  rw [hvalue 0 (by decide), hvalue 1 (by decide), hvalue 2 (by decide), hvalue 3 (by decide),
    hvalue 4 (by decide), hvalue 5 (by decide), hvalue 6 (by decide), hvalue 7 (by decide),
    hvalue 8 (by decide)]
  simp only [mapError_bind, ok_bind, apply_ite (Except.mapError _)]
  rfl

/-- The last column is always read. -/
theorem length_of_parseValues {values : List Cell} {lower : String → String} {parsed : ParsedRow}
    (h : parseValues lower values = .ok parsed) : 9 ≤ values.length := by
  by_contra hshort
  have hnone : valueAt values 8 = .error .unexpected := by
    simp [valueAt, List.getElem?_eq_none (show values.length ≤ 8 by omega)]
  revert h
  unfold parseValues
  rw [hnone]
  iterate 11 (apply bind_ne_ok; intro _)
  dsimp only
  split
  · -- the exception is raised in front of the rest, which fails as well
    apply bind_ne_ok
    intro _
    iterate 6 (apply bind_ne_ok; intro _)
    exact nofun
  · iterate 6 (apply bind_ne_ok; intro _)
    exact nofun

theorem parseRow_of_parseValues {values : List Cell} {lower : String → String} {parsed : ParsedRow}
    (h : parseValues lower values = .ok parsed) :
    parseRow lower (.ofValues values) = .ok parsed := by
  rw [parseValues_eq (length_of_parseValues h)] at h
  cases hrow : parseRow lower (.ofValues values) with
  | error message =>
    rw [hrow] at h
    cases h
  | ok parsed' =>
    rw [hrow] at h
    cases h
    rfl

theorem cellText_ok {cell : Cell} {field text : String} {required : Bool} {maxLength : ℕ}
    (h : cellText cell field required maxLength = .ok text) : text = cell.str := by
  unfold cellText at h
  split_ifs at h
  cases h
  rfl

theorem parseRow_password {lower : String → String} {cells : ImportCells} {parsed : ParsedRow}
    (h : parseRow lower cells = .ok parsed) : parsed.password = cells.password.str := by
  unfold parseRow at h
  obtain ⟨name, -, h⟩ := bind_eq_ok h
  obtain ⟨host, -, h⟩ := bind_eq_ok h
  obtain ⟨osText, -, h⟩ := bind_eq_ok h
  obtain ⟨osType, -, h⟩ := bind_eq_ok h
  obtain ⟨password, hpassword, h⟩ := bind_eq_ok h
  obtain ⟨clusterName, -, h⟩ := bind_eq_ok h
  dsimp only at h
  split at h
  · cases h
  · obtain ⟨port, -, h⟩ := bind_eq_ok h
    obtain ⟨username, -, h⟩ := bind_eq_ok h
    obtain ⟨interval, -, h⟩ := bind_eq_ok h
    obtain ⟨enabled, -, h⟩ := bind_eq_ok h
    cases h
    exact cellText_ok hpassword

/-- The row has a password. -/
def hasPassword (values : List Cell) : Bool := (values.getD 5 .empty).str ≠ ""

/-! ## The transaction of a row -/

/-- A data row, and what happens around its transaction. -/
structure DataRow where
  rowNumber : ℕ
  values : List Cell
  /-- A constraint is violated when the transaction writes or commits. -/
  conflict : Bool
  /-- What other transactions commit before it. -/
  others : Database → Database

/-- How the row ends, and the database that its result is added to. A violated constraint rolls
back what the transaction has written, also the cluster that it may have created. -/
def DataRow.transaction (casing : Casing) (encrypt : String → String) (row : DataRow)
    (db : Database) : ImportedRow × Database :=
  let working := valuesOutcome casing encrypt row.values row.rowNumber db
  match working.1.outcome with
  | .failed _ _ => working
  | _ =>
    if row.conflict then ({ working.1 with outcome := .failed .integrity true }, db) else working

/-- The body of the loop of `import_devices`. -/
def importDataRow (casing : Casing) (encrypt : String → String)
    (state : ImportBatch × Database) (row : DataRow) : ImportBatch × Database :=
  let ended := row.transaction casing encrypt (row.others state.2)
  importRow ended.1 state.1 ended.2

/-- `import_devices` for the data rows, next to other transactions. -/
def importDataRows (casing : Casing) (encrypt : String → String) (filename : String)
    (rows : List DataRow) (wall : Timestamp) (db : Database) : ℕ × Database :=
  let created := createImportBatch filename rows.length db
  let imported := rows.foldl (importDataRow casing encrypt) created
  (created.1.id, finishImport wall imported.1 imported.2)

/-! Rows of nine cells, with nothing going on next to them, are those of `importDevices`. -/

def ImportCells.values (cells : ImportCells) : List Cell :=
  [cells.name, cells.host, cells.osType, cells.port, cells.username, cells.password,
    cells.clusterName, cells.scanIntervalMinutes, cells.scheduledEnabled]

def DataRow.ofCells (row : ℕ × ImportCells) : DataRow where
  rowNumber := row.1
  values := row.2.values
  conflict := false
  others := id

theorem DataRow.transaction_ofCells (row : ℕ × ImportCells) (db : Database) :
    (DataRow.ofCells row).transaction casing encrypt db =
      rowOutcome casing encrypt row.2 row.1 db := by
  have hvalues : valuesOutcome casing encrypt row.2.values row.1 db =
      rowOutcome casing encrypt row.2 row.1 db := by
    have hparse : parseValues casing.lower row.2.values =
        (parseRow casing.lower row.2).mapError .validation := parseValues_eq (le_refl _) _
    unfold valuesOutcome
    rw [hparse]
    cases hrow : parseRow casing.lower row.2 with
    | error message =>
      have hbad : rowOutcome casing encrypt row.2 row.1 db =
          ({ rowNumber := row.1, outcome := .failed (.validation message) false }, db) := by
        rw [rowOutcome, hrow]
      rw [hbad]
      rfl
    | ok parsed => rfl
  unfold DataRow.transaction
  dsimp only [DataRow.ofCells]
  rw [hvalues]
  split <;> rfl

theorem importDataRows_ofCells (filename : String) (rows : List (ℕ × ImportCells))
    (wall : Timestamp) (db : Database) :
    importDataRows casing encrypt filename (rows.map .ofCells) wall db =
      importDevices casing encrypt filename rows wall db := by
  have hloop : ∀ state : ImportBatch × Database,
      (rows.map DataRow.ofCells).foldl (importDataRow casing encrypt) state =
        importRows casing encrypt rows state.1 state.2 := by
    induction rows with
    | nil => exact fun state => rfl
    | cons row rest ih =>
      intro state
      rw [List.map_cons, List.foldl_cons, ih, importDataRow, DataRow.transaction_ofCells]
      rfl
  simp only [importDataRows, importDevices, hloop, List.length_map]

/-! ## What a row leaves -/

/-- New clusters get new keys. -/
def ClusterKeysOk (db : Database) : Prop := ∀ c ∈ db.clusters, c.id < db.sequences.clusters

/-- The transaction of a row: it imports a device that is new, possibly with its cluster, or it
changes nothing at all. -/
inductive RowInventory (casing : Casing) (encrypt : String → String) (values : List Cell)
    (db : Database) (ended : ImportedRow × Database) : Prop
  | imported (parsed : ParsedRow) (cluster : Option Cluster) (new : List Cluster)
      (hparsed : parseValues casing.lower values = .ok parsed)
      (houtcome : ended.1.outcome =
        .imported (parsed.device encrypt cluster db.sequences.devices))
      (hdistinct : ∀ d ∈ db.devices,
        d.sameIdentity (parsed.device encrypt cluster db.sequences.devices) = false)
      (hclusters : ended.2.clusters = db.clusters ++ new) (hnew : new.length ≤ 1)
  | refused (houtcome : ended.1.outcome.devices = []) (hclusters : ended.2.clusters = db.clusters)

structure RowEnded (casing : Casing) (encrypt : String → String) (values : List Cell)
    (rowNumber : ℕ) (db : Database) (ended : ImportedRow × Database) : Prop where
  number : ended.1.rowNumber = rowNumber
  devices : ended.2.devices = db.devices
  batches : ended.2.importBatches = db.importBatches
  results : ended.2.importRowResults = db.importRowResults
  keys : ClusterKeysOk ended.2
  inventory : RowInventory casing encrypt values db ended

/-- A transaction that writes nothing. -/
theorem RowEnded.of_refused {values : List Cell} {rowNumber : ℕ} {db : Database} {row : ImportedRow}
    (hkeys : ClusterKeysOk db) (hnumber : row.rowNumber = rowNumber)
    (h : row.outcome.devices = []) : RowEnded casing encrypt values rowNumber db (row, db) :=
  ⟨hnumber, rfl, rfl, rfl, hkeys, .refused h rfl⟩

theorem createCluster_appended {name : String} {networks : List String} {interval : ℕ}
    {enabled : Bool} {db db' : Database} {id : ℕ} (hkeys : ClusterKeysOk db)
    (h : createCluster casing name networks interval enabled db = .ok (id, db')) :
    ∃ cluster : Cluster, cluster.id = db.sequences.clusters ∧
      db'.clusters = db.clusters ++ [cluster] ∧
      db'.sequences.clusters = db.sequences.clusters + 1 := by
  obtain ⟨rfl, normalized, nets, rfl⟩ := createCluster_ok h
  have hold : ∀ f : Cluster → Cluster,
      (db.clusters.map fun c => if c.id = db.sequences.clusters then f c else c) = db.clusters := by
    intro f
    have hmap := List.map_congr_left (f := fun c => if c.id = db.sequences.clusters then f c else c)
      (g := id) fun c hc => if_neg (Nat.ne_of_lt (hkeys c hc))
    rw [hmap, List.map_id]
  simp only [Database.updateCluster, List.map_append, List.map_cons, List.map_nil, hold, if_true]
  exact ⟨_, rfl, rfl, trivial⟩

/-- The cluster of a row is there already or added at the end. -/
theorem rowCluster_appended {parsed : ParsedRow} {db db' : Database} {cluster : Option Cluster}
    (hkeys : ClusterKeysOk db) (h : rowCluster casing parsed db = .ok (cluster, db')) :
    OnlyClusters db db' ∧ ClusterKeysOk db' ∧
      ∃ new, db'.clusters = db.clusters ++ new ∧ new.length ≤ 1 := by
  have hframe := (rowCluster_ok h).2.1
  unfold rowCluster at h
  split_ifs at h
  · cases h
    exact ⟨hframe, hkeys, [], (List.append_nil _).symm, Nat.zero_le _⟩
  · split at h
    · cases h
    · cases h
      exact ⟨hframe, hkeys, [], (List.append_nil _).symm, Nat.zero_le _⟩
    · split at h
      · cases h
      · rename_i hcreate
        cases h
        obtain ⟨new, hid, hclusters, hseq⟩ := createCluster_appended hkeys hcreate
        refine ⟨hframe, ?_, [new], hclusters, le_refl _⟩
        intro c hc
        rw [hclusters] at hc
        rcases List.mem_append.mp hc with hc | hc
        · have := hkeys c hc
          omega
        · rw [List.mem_singleton.mp hc]
          omega

theorem valuesOutcome_ended (casing : Casing) (encrypt : String → String) (values : List Cell) (rowNumber : ℕ) {db : Database}
    (hkeys : ClusterKeysOk db) :
    RowEnded casing encrypt values rowNumber db
      (valuesOutcome casing encrypt values rowNumber db) := by
  unfold valuesOutcome
  cases hparsed : parseValues casing.lower values with
  | error failure => exact .of_refused hkeys rfl rfl
  | ok parsed =>
    unfold rowOutcome
    simp only [parseRow_of_parseValues hparsed]
    split
    · split_ifs
      · exact .of_refused hkeys rfl rfl
      · exact .of_refused hkeys rfl rfl
    · rename_i hfind
      split
      · exact .of_refused hkeys rfl rfl
      · exact .of_refused hkeys rfl rfl
      · rename_i cluster db' hcluster
        obtain ⟨hframe, hkeys', new, hclusters, hnew⟩ := rowCluster_appended hkeys hcluster
        refine ⟨rfl, hframe.devices, ?_, hframe.importRowResults, hkeys', ?_⟩
        · rw [hframe]
        · refine .imported parsed cluster new hparsed rfl ?_ hclusters hnew
          intro d hd
          simpa [Device.sameIdentity, ParsedRow.device] using List.find?_eq_none.mp hfind d hd

/-- A constraint that is violated leaves no trace of the row. -/
theorem DataRow.transaction_ended (row : DataRow) (casing : Casing) (encrypt : String → String) {db : Database} (hkeys : ClusterKeysOk db) :
    RowEnded casing encrypt row.values row.rowNumber db (row.transaction casing encrypt db) := by
  have hworking := valuesOutcome_ended casing encrypt row.values
    row.rowNumber hkeys
  unfold DataRow.transaction
  dsimp only
  split
  · exact hworking
  · split_ifs
    · exact .of_refused hkeys hworking.number rfl
    · exact hworking

/-! ## The counters -/

/-- The status that the result of the row has. -/
def ImportedRow.status (row : ImportedRow) : ImportStatus :=
  match row.outcome with
  | .imported _ => .imported
  | .skipped _ => .skipped
  | .annotationConflict _ => .error
  | .failed _ _ => .error

theorem ImportedRow.result_spec (row : ImportedRow) (id batchId : ℕ) :
    (row.result id batchId).importStatus = row.status ∧
      (row.result id batchId).rowNumber = row.rowNumber := by
  unfold ImportedRow.result ImportedRow.status
  cases row.outcome <;> exact ⟨rfl, rfl⟩

/-- The batch with the row counted. -/
def ImportedRow.counted (row : ImportedRow) (batch : ImportBatch) : ImportBatch :=
  { batch with
    importedRows := batch.importedRows + if row.status = .imported then 1 else 0
    skippedRows := batch.skippedRows + if row.status = .skipped then 1 else 0
    errorRows := batch.errorRows + if row.status = .error then 1 else 0
    testPendingRows := batch.testPendingRows + if row.collects then 1 else 0 }

/-- As long as the stored batch is the object of the session, it stays so, and the row is
counted. -/
theorem importRow_counted (row : ImportedRow) {copy : ImportBatch} {db : Database}
    (hstored : db.importBatch? copy.id = some copy) :
    (importRow row copy db).1 = row.counted copy ∧
      (importRow row copy db).2.importBatch? copy.id = some (row.counted copy) := by
  have hwritten : ∀ (mid : Database) (g : ImportBatch → ImportBatch),
      mid.importBatches = db.importBatches → (∀ b, (g b).id = b.id) →
        (mid.updateImportBatch copy.id g).importBatch? copy.id = some (g copy) := by
    intro mid g hbatches hg
    rw [importBatch?_update hg, if_pos rfl, Database.importBatch?, hbatches]
    exact congrArg (Option.map g) hstored
  unfold importRow
  cases houtcome : row.outcome with
  | imported device =>
    dsimp only
    split_ifs with hcollect
    · have hcounted : row.counted copy = { copy with
          importedRows := copy.importedRows + 1
          testPendingRows := copy.testPendingRows + 1 } := by
        simp [ImportedRow.counted, ImportedRow.status, ImportedRow.collects, houtcome, hcollect]
      rw [hcounted]
      exact ⟨rfl, hwritten _ _ rfl fun _ => rfl⟩
    · have hcounted : row.counted copy = { copy with importedRows := copy.importedRows + 1 } := by
        simp [ImportedRow.counted, ImportedRow.status, ImportedRow.collects, houtcome, hcollect]
      rw [hcounted]
      exact ⟨rfl, hwritten _ _ rfl fun _ => rfl⟩
  | skipped deviceId =>
    have hcounted : row.counted copy = { copy with skippedRows := copy.skippedRows + 1 } := by
      simp [ImportedRow.counted, ImportedRow.status, ImportedRow.collects, houtcome]
    rw [hcounted]
    exact ⟨rfl, hwritten _ _ rfl fun _ => rfl⟩
  | annotationConflict deviceId =>
    have hcounted : row.counted copy = { copy with errorRows := copy.errorRows + 1 } := by
      simp [ImportedRow.counted, ImportedRow.status, ImportedRow.collects, houtcome]
    rw [hcounted]
    exact ⟨rfl, hwritten _ _ rfl fun _ => rfl⟩
  | failed failure transactionOpen =>
    have hcounted : row.counted copy = { copy with errorRows := copy.errorRows + 1 } := by
      simp [ImportedRow.counted, ImportedRow.status, ImportedRow.collects, houtcome]
    have hreload : (if transactionOpen = true then (db.importBatch? copy.id).getD copy else copy) =
        copy := by
      rw [hstored]
      exact ite_self _
    dsimp only
    rw [hreload, hcounted]
    exact ⟨rfl, hwritten _ _ rfl fun _ => rfl⟩

/-- The counters are those of the results, one for each row. -/
structure BatchTally (batch : ImportBatch) (rows : List DataRow)
    (results : List ImportRowResult) : Prop where
  imported : batch.importedRows = results.countP (·.importStatus = .imported)
  skipped : batch.skippedRows = results.countP (·.importStatus = .skipped)
  errors : batch.errorRows = results.countP (·.importStatus = .error)
  sum : batch.importedRows + batch.skippedRows + batch.errorRows = rows.length
  pending : batch.testPendingRows =
    (rows.zip results).countP fun p => p.2.importStatus = .imported && hasPassword p.1.values

/-- A row is counted under its status, and as waiting for its test if it has a password. -/
theorem BatchTally.add {batch : ImportBatch} {rows : List DataRow}
    {results : List ImportRowResult} (h : BatchTally batch rows results)
    (hlength : rows.length = results.length) {dataRow : DataRow} {row : ImportedRow} (id : ℕ)
    (hpassword : row.collects = (row.status = .imported && hasPassword dataRow.values)) :
    BatchTally (row.counted batch) (rows ++ [dataRow]) (results ++ [row.result id batch.id]) := by
  obtain ⟨hstatus, -⟩ := row.result_spec id batch.id
  have hcount : ∀ status, (results ++ [row.result id batch.id]).countP (·.importStatus = status) =
      results.countP (·.importStatus = status) + if row.status = status then 1 else 0 := by
    intro status
    simp [List.countP_append, List.countP_singleton, hstatus]
  constructor
  · rw [hcount, ← h.imported]
    rfl
  · rw [hcount, ← h.skipped]
    rfl
  · rw [hcount, ← h.errors]
    rfl
  · have hsum := h.sum
    rw [List.length_append, List.length_singleton, ← hsum]
    unfold ImportedRow.counted
    cases row.status <;> simp <;> omega
  · rw [List.zip_append hlength, List.countP_append, ← h.pending, List.zip_cons_cons,
      List.zip_nil_right, List.countP_singleton, hstatus, ← hpassword]
    rfl

/-! ## The account -/

/-- What the row's own transaction does to the inventory, by the status of its result. -/
inductive RowEffect (casing : Casing) (encrypt : String → String) (values : List Cell)
    (result : ImportRowResult) (before after : Database) : Prop
  | imported (parsed : ParsedRow) (cluster : Option Cluster) (new : List Cluster) (deviceId : ℕ)
      (hstatus : result.importStatus = .imported) (hid : result.deviceId = some deviceId)
      (hparsed : parseValues casing.lower values = .ok parsed)
      (hdevices : after.devices = before.devices ++ [parsed.device encrypt cluster deviceId])
      (hdistinct : ∀ d ∈ before.devices,
        d.sameIdentity (parsed.device encrypt cluster deviceId) = false)
      (hclusters : after.clusters = before.clusters ++ new) (hnew : new.length ≤ 1)
  | refused (hstatus : result.importStatus ≠ .imported) (hdevices : after.devices = before.devices)
      (hclusters : after.clusters = before.clusters)

/-- Transactions that do not touch the batch and its results. -/
structure LeavesBatch (id : ℕ) (others : Database → Database) : Prop where
  batch : ∀ db, (others db).importBatch? id = db.importBatch? id
  results : ∀ db, (others db).importRowsOf id = db.importRowsOf id
  keys : ∀ db, ClusterKeysOk db → ClusterKeysOk (others db)

/-- Where the loop stands behind some rows. -/
structure ImportProgress (id total : ℕ) (done : List DataRow) (state : ImportBatch × Database) :
    Prop where
  sameId : state.1.id = id
  sameTotal : state.1.totalRows = total
  keys : ClusterKeysOk state.2
  stored : state.2.importBatch? id = some state.1
  numbers : (state.2.importRowsOf id).map (·.rowNumber) = done.map (·.rowNumber)
  tally : BatchTally state.1 done (state.2.importRowsOf id)

theorem RowEnded.collects {values : List Cell} {rowNumber : ℕ} {db : Database}
    {ended : ImportedRow × Database} (h : RowEnded casing encrypt values rowNumber db ended) :
    ended.1.collects = (ended.1.status = .imported && hasPassword values) := by
  cases h.inventory with
  | imported parsed cluster new hparsed houtcome hdistinct hclusters hnew =>
    have hpassword := parseRow_password (parseRow_of_parseValues hparsed)
    simp only [ImportedRow.collects, ImportedRow.status, houtcome, ParsedRow.device, hpassword]
    rfl
  | refused houtcome hclusters =>
    unfold ImportedRow.collects ImportedRow.status
    cases hcase : ended.1.outcome with
    | imported device => simp [hcase, RowOutcome.devices] at houtcome
    | skipped deviceId => rfl
    | annotationConflict deviceId => rfl
    | failed failure transactionOpen => rfl

/-- One row: its result is added and counted, and the inventory changes accordingly. -/
theorem ImportProgress.step (casing : Casing) (encrypt : String → String) {id total : ℕ} {done : List DataRow} {state : ImportBatch × Database}
    (h : ImportProgress id total done state) {row : DataRow} (hrow : LeavesBatch id row.others) :
    let state' := importDataRow casing encrypt state row
    ImportProgress id total (done ++ [row]) state' ∧ ∃ r : ImportRowResult,
      state'.2.importRowsOf id = state.2.importRowsOf id ++ [r] ∧
        RowEffect casing encrypt row.values r (row.others state.2) state'.2 := by
  have hended := row.transaction_ended casing encrypt (hrow.keys _ h.keys)
  unfold importDataRow
  dsimp only
  set ended := row.transaction casing encrypt (row.others state.2)
  have hstored : ended.2.importBatch? state.1.id = some state.1 := by
    rw [Database.importBatch?, hended.batches, h.sameId]
    exact (hrow.batch _).trans h.stored
  obtain ⟨hcopy, hbatch⟩ := importRow_counted ended.1 hstored
  obtain ⟨-, hresults, -⟩ := importRow_results ended.1 state.1 ended.2
  obtain ⟨hclusters, hseq, -, hdevices⟩ := importRow_frame ended.1 state.1 ended.2
  obtain ⟨hbatchId, hnamed, himported⟩ :=
    ended.1.result_imported ended.2.sequences.importRowResults state.1.id
  obtain ⟨-, hnumber⟩ := ended.1.result_spec ended.2.sequences.importRowResults state.1.id
  have hadd := h.tally.add (by simpa using congrArg List.length h.numbers.symm)
    ended.2.sequences.importRowResults hended.collects
  set r := ended.1.result ended.2.sequences.importRowResults state.1.id
  set written := importRow ended.1 state.1 ended.2
  have hrows : written.2.importRowsOf id = state.2.importRowsOf id ++ [r] := by
    rw [Database.importRowsOf, hresults, hended.results, List.filter_append, ← h.sameId]
    congr 1
    · rw [h.sameId]
      exact hrow.results _
    · simp [hbatchId]
  refine ⟨⟨?_, ?_, ?_, ?_, ?_, ?_⟩, r, hrows, ?_⟩
  · rw [hcopy]
    exact h.sameId
  · rw [hcopy]
    exact h.sameTotal
  · intro c hc
    rw [hclusters] at hc
    rw [hseq]
    exact hended.keys c hc
  · rw [← h.sameId, hbatch, hcopy]
  · rw [hrows, List.map_append, List.map_append, h.numbers, List.map_singleton,
      List.map_singleton, hnumber, hended.number]
  · rw [hrows, hcopy]
    exact hadd
  · cases hended.inventory with
    | imported parsed cluster new hparsed houtcome hdistinct hnewClusters hnew =>
      rw [houtcome, hended.devices] at hdevices
      obtain ⟨himportedStatus, hdeviceId⟩ := himported _ houtcome
      exact .imported parsed cluster new _ himportedStatus hdeviceId hparsed hdevices hdistinct
        (hclusters.trans hnewClusters) hnew
    | refused houtcome hsameClusters =>
      rw [houtcome, List.append_nil, hended.devices] at hdevices
      refine .refused ?_ hdevices (hclusters.trans hsameClusters)
      intro hr
      obtain ⟨device, hdevice, -⟩ := hnamed hr
      rw [hdevice] at houtcome
      cases houtcome

theorem ImportProgress.run (casing : Casing) (encrypt : String → String) {id total : ℕ} (rows : List DataRow)
    (hrows : ∀ row ∈ rows, LeavesBatch id row.others) {done : List DataRow}
    {state : ImportBatch × Database} (h : ImportProgress id total done state) :
    let state' := rows.foldl (importDataRow casing encrypt) state
    ImportProgress id total (done ++ rows) state' ∧ ∃ results : List ImportRowResult,
      state'.2.importRowsOf id = state.2.importRowsOf id ++ results := by
  induction rows generalizing done state with
  | nil => exact ⟨by simpa using h, [], (List.append_nil _).symm⟩
  | cons row rest ih =>
    obtain ⟨hstep, r, hresults, -⟩ := h.step casing encrypt (hrows row List.mem_cons_self)
    obtain ⟨hrun, results, hrest⟩ := ih (fun row hrow => hrows row (List.mem_cons_of_mem _ hrow)) hstep
    refine ⟨by simpa using hrun, r :: results, ?_⟩
    rw [List.foldl_cons, hrest, hresults, List.append_assoc, List.singleton_append]

/-- The new devices and clusters, if nothing else changes devices and clusters: the devices are
those that the results of the imported rows name. -/
def InventoryGrown (db db' : Database) (results : List ImportRowResult) : Prop :=
  ∃ (new : List Device) (clusters : List Cluster),
    db'.devices = db.devices ++ new ∧ db'.clusters = db.clusters ++ clusters ∧
      (results.filter (·.importStatus = .imported)).map (·.deviceId) = new.map (some ·.id) ∧
      new.Pairwise (fun a b => a.sameIdentity b = false) ∧
      ∀ d ∈ db.devices, ∀ e ∈ new, d.sameIdentity e = false

/-- Transactions that leave the inventory alone. -/
def LeavesInventory (others : Database → Database) : Prop :=
  ∀ db, (others db).devices = db.devices ∧ (others db).clusters = db.clusters

theorem InventoryGrown.step {db before after : Database} {results : List ImportRowResult}
    {mid : Database} (h : InventoryGrown db mid results) {values : List Cell} {r : ImportRowResult}
    (hdevices : before.devices = mid.devices) (hclusters : before.clusters = mid.clusters)
    (heffect : RowEffect casing encrypt values r before after) :
    InventoryGrown db after (results ++ [r]) := by
  obtain ⟨new, clusters, hnew, hnewClusters, hnamed, hpairwise, hold⟩ := h
  rw [← hdevices] at hnew
  rw [← hclusters] at hnewClusters
  cases heffect with
  | imported parsed cluster added deviceId hstatus hid hparsed hafter hdistinct hafterClusters hadded =>
    set device := parsed.device encrypt cluster deviceId
    have hid : r.deviceId = some device.id := hid
    rw [hnew] at hdistinct
    refine ⟨new ++ [device], clusters ++ added, ?_, ?_, ?_, ?_, ?_⟩
    · rw [hafter, hnew, List.append_assoc]
    · rw [hafterClusters, hnewClusters, List.append_assoc]
    · simp only [List.filter_append, List.map_append, hnamed]
      congr 1
      simpa [hstatus] using hid
    · rw [List.pairwise_append]
      refine ⟨hpairwise, List.pairwise_singleton _ _, ?_⟩
      intro a ha b hb
      rw [List.mem_singleton.mp hb]
      exact hdistinct a (List.mem_append_right _ ha)
    · intro d hd e he
      rcases List.mem_append.mp he with he | he
      · exact hold d hd e he
      · rw [List.mem_singleton.mp he]
        exact hdistinct d (List.mem_append_left _ hd)
  | refused hstatus hafter hafterClusters =>
    refine ⟨new, clusters, hafter.trans hnew, hafterClusters.trans hnewClusters, ?_, hpairwise, hold⟩
    simp [List.filter_append, hnamed, hstatus]

theorem InventoryGrown.run (casing : Casing) (encrypt : String → String) {id total : ℕ} {db : Database} (rows : List DataRow)
    (hrows : ∀ row ∈ rows, LeavesBatch id row.others)
    (hquiet : ∀ row ∈ rows, LeavesInventory row.others) {done : List DataRow}
    {state : ImportBatch × Database} (hprogress : ImportProgress id total done state)
    (h : InventoryGrown db state.2 (state.2.importRowsOf id)) :
    let state' := rows.foldl (importDataRow casing encrypt) state
    InventoryGrown db state'.2 (state'.2.importRowsOf id) := by
  induction rows generalizing done state with
  | nil => exact h
  | cons row rest ih =>
    obtain ⟨hstep, r, hresults, heffect⟩ := hprogress.step casing encrypt (hrows row List.mem_cons_self)
    obtain ⟨hdevices, hclusters⟩ := hquiet row List.mem_cons_self state.2
    have hgrown := h.step hdevices hclusters heffect
    rw [← hresults] at hgrown
    exact ih (fun row hrow => hrows row (List.mem_cons_of_mem _ hrow))
      (fun row hrow => hquiet row (List.mem_cons_of_mem _ hrow)) hstep hgrown

/-- The account of an import: one result for each data row, the counters of the batch, what each
row's own transaction does, and what has been added in the end if nothing else changes the
inventory. -/
structure ImportAccount (casing : Casing) (encrypt : String → String) (filename : String)
    (rows : List DataRow) (db : Database) (id : ℕ) (db' : Database) : Prop where
  numbers : (db'.importRowsOf id).map (·.rowNumber) = rows.map (·.rowNumber)
  counters : ∃ batch, db'.importBatch? id = some batch ∧ batch.totalRows = rows.length ∧
    BatchTally batch rows (db'.importRowsOf id)
  effects : ∀ before row after, rows = before ++ row :: after → ∃ result,
    (db'.importRowsOf id)[before.length]? = some result ∧
      let reached := before.foldl (importDataRow casing encrypt)
        (createImportBatch filename rows.length db)
      RowEffect casing encrypt row.values result (row.others reached.2)
        (importDataRow casing encrypt reached row).2
  inventory : (∀ row ∈ rows, LeavesInventory row.others) →
    InventoryGrown db db' (db'.importRowsOf id)

/-- The keys of import batches and clusters come from their sequences. -/
structure ImportKeysOk (db : Database) : Prop where
  clusters : ClusterKeysOk db
  batches : ∀ b ∈ db.importBatches, b.id < db.sequences.importBatches
  results : ∀ r ∈ db.importRowResults, r.batchId < db.sequences.importBatches

theorem importProgress_created {db : Database} (h : ImportKeysOk db) (filename : String)
    (totalRows : ℕ) : ImportProgress db.sequences.importBatches totalRows []
      (createImportBatch filename totalRows db) := by
  have hnone : (createImportBatch filename totalRows db).2.importRowsOf db.sequences.importBatches =
      [] := by
    rw [Database.importRowsOf, List.filter_eq_nil_iff]
    intro r hr
    have := h.results r hr
    simp only [decide_eq_true_eq]
    omega
  refine ⟨rfl, rfl, h.clusters, ?_, by rw [hnone]; rfl, by rw [hnone]; constructor <;> rfl⟩
  rw [Database.importBatch?, createImportBatch, List.find?_append]
  have hfresh : db.importBatches.find? (·.id = db.sequences.importBatches) = none := by
    rw [List.find?_eq_none]
    intro b hb
    have := h.batches b hb
    simp only [decide_eq_true_eq]
    omega
  simp [hfresh]

/-- Import accounting. -/
theorem importDataRows_account (casing : Casing) (encrypt : String → String) (filename : String)
    (rows : List DataRow) (wall : Timestamp) {db : Database} (h : ImportKeysOk db)
    (hrows : ∀ row ∈ rows, LeavesBatch db.sequences.importBatches row.others) :
    let imported := importDataRows casing encrypt filename rows wall db
    ImportAccount casing encrypt filename rows db imported.1 imported.2 := by
  have hcreated := importProgress_created h filename rows.length
  obtain ⟨hdone, -⟩ := hcreated.run casing encrypt rows hrows
  dsimp only [importDataRows]
  set created := createImportBatch filename rows.length db
  set imported := rows.foldl (importDataRow casing encrypt) created
  have hid : created.1.id = db.sequences.importBatches := hcreated.sameId
  have hresults : (finishImport wall imported.1 imported.2).importRowsOf created.1.id =
      imported.2.importRowsOf db.sequences.importBatches := by
    rw [hid]
    rfl
  refine ⟨?_, ?_, ?_, ?_⟩
  · rw [hresults]
    exact hdone.numbers
  · refine ⟨finishedBatch wall imported.1 imported.1, ?_, hdone.sameTotal, ?_⟩
    · have hkeep : ∀ b, (finishedBatch wall imported.1 b).id = b.id := fun b => rfl
      rw [finishImport, importBatch?_update hkeep, hdone.sameId, hid, if_pos rfl, hdone.stored]
      rfl
    · rw [hresults]
      obtain ⟨himported, hskipped, herrors, hsum, hpending⟩ := hdone.tally
      exact ⟨himported, hskipped, herrors, hsum, hpending⟩
  · intro before row after hsplit
    have hleave : ∀ other ∈ before ++ row :: after,
        LeavesBatch db.sequences.importBatches other.others := hsplit ▸ hrows
    obtain ⟨hbefore, -⟩ := hcreated.run casing encrypt before
      fun other hother => hleave other (List.mem_append_left _ hother)
    obtain ⟨hrow, result, hadded, heffect⟩ := hbefore.step casing encrypt
      (hleave row (by simp))
    obtain ⟨-, rest, hrest⟩ := hrow.run casing encrypt after
      fun other hother => hleave other (by simp [hother])
    refine ⟨result, ?_, heffect⟩
    have hlength := congrArg List.length hbefore.numbers
    simp only [List.length_map, List.nil_append] at hlength
    have himported : imported = after.foldl (importDataRow casing encrypt)
        (importDataRow casing encrypt (before.foldl (importDataRow casing encrypt) created) row) := by
      rw [← List.foldl_cons, ← List.foldl_append, ← hsplit]
    rw [hresults, himported, hrest, hadded, List.append_assoc, List.singleton_append,
      List.getElem?_append_right (by omega), hlength, Nat.sub_self]
    rfl
  · intro hquiet
    have hstart : InventoryGrown db created.2 (created.2.importRowsOf db.sequences.importBatches) := by
      have hnone : created.2.importRowsOf db.sequences.importBatches = [] :=
        List.map_eq_nil_iff.mp hcreated.numbers
      rw [hnone]
      exact ⟨[], [], (List.append_nil _).symm, (List.append_nil _).symm, rfl, .nil, by simp⟩
    rw [hresults]
    exact (hstart.run casing encrypt rows hrows hquiet hcreated)

/-- A row that creates a cluster, one with a bad system, a duplicate, and one that fails when its
cluster is already created. -/
def mixedRows : List DataRow :=
  [⟨2, [.text "web-01", .text "10.0.0.10", .text "linux", .empty, .text "ops", .text "secret-1",
      .text "生产集群", .empty, .text "是"], false, id⟩,
    ⟨3, [.text "bad", .text "10.0.0.11", .text "other", .empty, .text "ops", .text "secret-2",
      .empty, .empty, .empty], false, id⟩,
    ⟨5, [.text "copy", .text "10.0.0.10", .text "linux", .empty, .text "ops", .text "secret-3",
      .empty, .empty, .text "否"], false, id⟩,
    ⟨6, [.text "late", .text "10.0.0.12", .text "linux", .empty, .text "ops", .text "secret-4",
      .text "新集群", .empty, .empty], true, id⟩]

theorem mixed_import_account :
    let imported := importDataRows ⟨id, id⟩ id "devices.xlsx" mixedRows 0 {}
    (imported.2.importRowsOf 1).map (·.importStatus) = [.imported, .error, .skipped, .error] ∧
      imported.2.clusters.map (·.name) = ["生产集群"] ∧
      ImportAccount ⟨id, id⟩ id "devices.xlsx" mixedRows {} imported.1 imported.2 := by
  refine ⟨by decide, by decide, importDataRows_account _ _ _ mixedRows 0 ?_ ?_⟩
  · constructor
    · intro c hc
      cases hc
    · intro b hb
      cases hb
    · intro r hr
      cases hr
  · have hid : ∀ row ∈ mixedRows, row.others = id := by
      simp [mixedRows]
    intro row hrow
    rw [hid row hrow]
    exact ⟨fun _ => rfl, fun _ => rfl, fun _ h => h⟩

end ConnectionTopology
