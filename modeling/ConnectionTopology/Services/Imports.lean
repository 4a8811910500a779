import ConnectionTopology.Services.ImportTests
import ConnectionTopology.Services.Clusters

/-!
# The transactions of `import_devices`

A row of the file is parsed, compared with the devices that exist and written in a
transaction of its own. The session keeps one `ImportBatch` object. Its attributes are loaded once and,
because of `expire_on_commit=False`, survive every commit; a flush writes only the
columns that were changed on the object. A rollback expires the object, but only if
a transaction was open when the row failed.
-/
namespace ConnectionTopology

/-- Why a row ended in the `except` branch. -/
inductive RowFailure
  | validation (message : String)
  | integrity
  | unexpected
  deriving DecidableEq, Repr

def RowFailure.message : RowFailure → String
  | .validation message => message
  | .integrity => "数据库写入冲突"
  | .unexpected => "该行导入失败"

/-- How the transaction of one row ended. -/
inductive RowOutcome
  | imported (device : Device)
  /-- The device exists and the row has a password. -/
  | skipped (deviceId : ℕ)
  /-- The device exists and the row only names a cluster. -/
  | annotationConflict (deviceId : ℕ)
  | failed (failure : RowFailure) (transactionOpen : Bool)
  deriving DecidableEq, Repr

/-- One data row of the file with its outcome. -/
structure ImportedRow where
  rowNumber : ℕ
  deviceName : Option String := none
  host : Option String := none
  outcome : RowOutcome
  deriving DecidableEq, Repr

/-- The `ImportRowResult` that the row's transaction adds. -/
def ImportedRow.result (row : ImportedRow) (id batchId : ℕ) : ImportRowResult :=
  let base : ImportRowResult := {
    id := id
    batchId := batchId
    rowNumber := row.rowNumber
    deviceName := row.deviceName
    host := row.host
    importStatus := .error }
  match row.outcome with
  | .imported device => { base with
      deviceId := some device.id
      importStatus := .imported
      importMessage :=
        if device.collectionEnabled then "导入成功，等待连接测试"
        else "仅标注集群设备，不执行连接测试"
      testStatus := if device.collectionEnabled then .pending else .notApplicable }
  | .skipped deviceId => { base with
      deviceId := some deviceId
      importStatus := .skipped
      importMessage := "设备已存在，已跳过" }
  | .annotationConflict deviceId => { base with
      deviceId := some deviceId
      importMessage := "设备已存在，未修改集群归属" }
  | .failed failure _ => { base with importMessage := failure.message }

def insertRowResult (row : ImportedRow) (batchId : ℕ) (db : Database) : Database :=
  { db with
    importRowResults := db.importRowResults ++ [row.result db.sequences.importRowResults batchId]
    sequences := { db.sequences with importRowResults := db.sequences.importRowResults + 1 } }

/-- The row's transaction: the object in memory afterwards and the committed rows. -/
def importRow (row : ImportedRow) (copy : ImportBatch) (db : Database) : ImportBatch × Database :=
  match row.outcome with
  | .imported device =>
    let copy := { copy with importedRows := copy.importedRows + 1 }
    let db := { insertRowResult row copy.id db with devices := db.devices ++ [device] }
    if device.collectionEnabled then
      let copy := { copy with testPendingRows := copy.testPendingRows + 1 }
      (copy, db.updateImportBatch copy.id fun b => { b with
        importedRows := copy.importedRows
        testPendingRows := copy.testPendingRows })
    else (copy, db.updateImportBatch copy.id fun b => { b with importedRows := copy.importedRows })
  | .skipped _ =>
    let copy := { copy with skippedRows := copy.skippedRows + 1 }
    (copy, (insertRowResult row copy.id db).updateImportBatch copy.id fun b =>
      { b with skippedRows := copy.skippedRows })
  | .annotationConflict _ =>
    let copy := { copy with errorRows := copy.errorRows + 1 }
    (copy, (insertRowResult row copy.id db).updateImportBatch copy.id fun b =>
      { b with errorRows := copy.errorRows })
  | .failed _ transactionOpen =>
    -- `session.rollback()` without a transaction does nothing, and `session.get` then
    -- returns the cached object
    let copy := if transactionOpen then (db.importBatch? copy.id).getD copy else copy
    let copy := { copy with errorRows := copy.errorRows + 1 }
    (copy, (insertRowResult row copy.id db).updateImportBatch copy.id fun b =>
      { b with errorRows := copy.errorRows })

/-- The status that the last transaction of `import_devices` computes from its object. -/
def finishStatus (copy : ImportBatch) : ImportBatchStatus :=
  if copy.testPendingRows ≠ 0 then .testing else .completed

/-- The columns that the last transaction writes; an unchanged status is not written. -/
def finishedBatch (wall : Timestamp) (copy b : ImportBatch) : ImportBatch :=
  { b with
    status := if finishStatus copy ≠ copy.status then finishStatus copy else b.status
    finishedAt := if finishStatus copy = .completed then some wall else b.finishedAt }

def finishImport (wall : Timestamp) (copy : ImportBatch) (db : Database) : Database :=
  db.updateImportBatch copy.id (finishedBatch wall copy)

/-! ## Rows of the file -/

/-- A cell as the workbook reader returns it. -/
inductive Cell
  | empty
  | text (value : String)
  /-- A number, date or truth value: what `str` and `int` make of it. -/
  | other (str : String) (int : Option ℤ)
  deriving DecidableEq, Repr

/-- `value in {None, ""}`. -/
def Cell.isBlank : Cell → Bool
  | .empty => true
  | .text value => value = ""
  | .other _ _ => false

/-- `str(value).strip()`, and the empty text for no value. -/
def Cell.str : Cell → String
  | .empty => ""
  | .text value => Text.strip value
  | .other str _ => Text.strip str

/-- `int(value)`. -/
def Cell.int : Cell → Option ℤ
  | .empty => none
  | .text value => Text.int value
  | .other _ int => int

/-- `_text`. -/
def cellText (cell : Cell) (field : String) (required : Bool) (maxLength : ℕ) :
    Except String String :=
  if required && cell.str = "" then .error (field ++ "不能为空")
  else if maxLength < cell.str.length then
    .error (field ++ "不能超过 " ++ toString maxLength ++ " 个字符")
  else .ok cell.str

/-- `_integer`. -/
def cellInteger (cell : Cell) (field : String) (default minimum maximum : ℕ) : Except String ℕ :=
  if cell.isBlank then .ok default
  else
    match cell.int with
    | none => .error (field ++ "必须是整数")
    | some parsed =>
      if minimum ≤ parsed ∧ parsed ≤ maximum then .ok parsed.toNat
      else .error (field ++ "必须在 " ++ toString minimum ++ " 到 " ++ toString maximum ++ " 之间")

/-- `_enabled`. -/
def cellEnabled (cell : Cell) : Except String Bool :=
  if cell.isBlank then .ok true
  else if cell.str = "是" then .ok true
  else if cell.str = "否" then .ok false
  else .error "启用定时采集只能填写“是”或“否”"

/-- The nine columns of `IMPORT_HEADERS`. -/
structure ImportCells where
  name : Cell
  host : Cell
  osType : Cell
  port : Cell
  username : Cell
  password : Cell
  clusterName : Cell
  scanIntervalMinutes : Cell
  scheduledEnabled : Cell
  deriving DecidableEq, Repr

structure ParsedRow where
  name : String
  host : String
  osType : OSType
  port : ℕ
  username : String
  password : String
  clusterName : String
  scanIntervalMinutes : ℕ
  scheduledEnabled : Bool
  deriving DecidableEq, Repr

def parseOsType (lower : String → String) (text : String) : Except String OSType :=
  if lower text = "linux" then .ok .linux
  else if lower text = "windows" then .ok .windows
  else .error "操作系统只能填写 linux 或 windows"

/-- `_parse_row`; the error is the text of the `ImportValidationError`. -/
def parseRow (lower : String → String) (cells : ImportCells) : Except String ParsedRow := do
  let name ← cellText cells.name "设备名称" true 100
  let host ← cellText cells.host "主机地址" true 255
  let osText ← cellText cells.osType "操作系统" true 255
  let osType ← parseOsType lower osText
  let password ← cellText cells.password "密码" false 1024
  let clusterName ← cellText cells.clusterName "所属集群" false 100
  if password = "" ∧ clusterName = "" then throw "未填写密码时必须填写所属集群"
  let port ← cellInteger cells.port "端口" (if osType = .linux then 22 else 5985) 1 65535
  let username ← cellText cells.username "用户名" true 255
  let scanIntervalMinutes ← cellInteger cells.scanIntervalMinutes "采集间隔（分钟）" 5 1 10080
  let scheduledEnabled ← cellEnabled cells.scheduledEnabled
  return { name, host, osType, port, username, password, clusterName, scanIntervalMinutes,
           scheduledEnabled }

/-- The cluster of a row: none, found by its name, or new with the values of the row. -/
def rowCluster (casing : Casing) (parsed : ParsedRow) (db : Database) :
    Except ClusterError (Option Cluster × Database) :=
  if parsed.clusterName = "" then .ok (none, db)
  else
    match findClusterByName casing parsed.clusterName db with
    | .error e => .error e
    | .ok (some cluster) => .ok (some cluster, db)
    | .ok none =>
      match createCluster casing parsed.clusterName [] parsed.scanIntervalMinutes
          parsed.scheduledEnabled db with
      | .error e => .error e
      | .ok (id, db) => .ok (db.clusters.find? (·.id = id), db)

/-- The new device of a row, with the scan values of its cluster. -/
def ParsedRow.device (encrypt : String → String) (parsed : ParsedRow) (cluster : Option Cluster)
    (id : ℕ) : Device where
  id := id
  name := parsed.name
  host := parsed.host
  osType := parsed.osType
  port := parsed.port
  username := parsed.username
  encryptedPassword := encrypt parsed.password
  clusterId := cluster.map (·.id)
  scanIntervalMinutes :=
    (clusterScanValues cluster parsed.scanIntervalMinutes parsed.scheduledEnabled).1
  scheduledEnabled :=
    (clusterScanValues cluster parsed.scanIntervalMinutes parsed.scheduledEnabled).2
  collectionEnabled := parsed.password ≠ ""

/-- How the row ends, and the database with its new cluster and the drawn keys; the
device itself is added by `importRow`. -/
def rowOutcome (casing : Casing) (encrypt : String → String) (cells : ImportCells)
    (rowNumber : ℕ) (db : Database) : ImportedRow × Database :=
  match parseRow casing.lower cells with
  | .error message =>
    ({ rowNumber, outcome := .failed (.validation message) false }, db)
  | .ok parsed =>
    let row : RowOutcome → ImportedRow := fun outcome =>
      { rowNumber, deviceName := some parsed.name, host := some parsed.host, outcome }
    match db.devices.find? fun d =>
        d.host = parsed.host && d.port = parsed.port && d.username = parsed.username with
    | some duplicate =>
      if parsed.password = "" then (row (.annotationConflict duplicate.id), db)
      else (row (.skipped duplicate.id), db)
    | none =>
      match rowCluster casing parsed db with
      | .error .integrityError => (row (.failed .integrity true), db)
      | .error _ => (row (.failed .unexpected true), db)
      | .ok (cluster, db') =>
        (row (.imported (parsed.device encrypt cluster db.sequences.devices)),
          { db' with sequences := { db'.sequences with devices := db.sequences.devices + 1 } })

/-- The loop over the rows: the batch object, the imported devices and the database. -/
def importRows (casing : Casing) (encrypt : String → String) :
    List (ℕ × ImportCells) → ImportBatch → Database → ImportBatch × Database
  | [], copy, db => (copy, db)
  | (rowNumber, cells) :: rest, copy, db =>
    let row := rowOutcome casing encrypt cells rowNumber db
    let written := importRow row.1 copy row.2
    importRows casing encrypt rest written.1 written.2

/-! ## Rows of any width -/

/-- `values[i]`: a row that is too short raises an `IndexError`, which is no validation error. -/
def valueAt (values : List Cell) (i : ℕ) : Except RowFailure Cell :=
  match values[i]? with
  | some cell => .ok cell
  | none => .error .unexpected

/-- `_parse_row` for the values of a row, in the order in which they are read. -/
def parseValues (lower : String → String) (values : List Cell) : Except RowFailure ParsedRow := do
  let name ← (cellText (← valueAt values 0) "设备名称" true 100).mapError .validation
  let host ← (cellText (← valueAt values 1) "主机地址" true 255).mapError .validation
  let osText ← (cellText (← valueAt values 2) "操作系统" true 255).mapError .validation
  let osType ← (parseOsType lower osText).mapError .validation
  let password ← (cellText (← valueAt values 5) "密码" false 1024).mapError .validation
  let clusterName ← (cellText (← valueAt values 6) "所属集群" false 100).mapError .validation
  if password = "" ∧ clusterName = "" then throw (.validation "未填写密码时必须填写所属集群")
  let port ← (cellInteger (← valueAt values 3) "端口"
    (if osType = .linux then 22 else 5985) 1 65535).mapError .validation
  let username ← (cellText (← valueAt values 4) "用户名" true 255).mapError .validation
  let scanIntervalMinutes ←
    (cellInteger (← valueAt values 7) "采集间隔（分钟）" 5 1 10080).mapError .validation
  let scheduledEnabled ← (cellEnabled (← valueAt values 8)).mapError .validation
  return { name, host, osType, port, username, password, clusterName, scanIntervalMinutes,
           scheduledEnabled }

/-- The first nine values. -/
def ImportCells.ofValues (values : List Cell) : ImportCells :=
  let cell := fun i => values.getD i .empty
  { name := cell 0, host := cell 1, osType := cell 2, port := cell 3, username := cell 4,
    password := cell 5, clusterName := cell 6, scanIntervalMinutes := cell 7,
    scheduledEnabled := cell 8 }

/-- `rowOutcome` for the values of a row. -/
def valuesOutcome (casing : Casing) (encrypt : String → String) (values : List Cell)
    (rowNumber : ℕ) (db : Database) : ImportedRow × Database :=
  match parseValues casing.lower values with
  | .error failure => ({ rowNumber, outcome := .failed failure false }, db)
  | .ok _ => rowOutcome casing encrypt (.ofValues values) rowNumber db

/-- The first transaction of `import_devices`. -/
def createImportBatch (filename : String) (totalRows : ℕ) (db : Database) :
    ImportBatch × Database :=
  let batch : ImportBatch := { id := db.sequences.importBatches, filename, totalRows }
  (batch, { db with
    importBatches := db.importBatches ++ [batch]
    sequences := { db.sequences with importBatches := db.sequences.importBatches + 1 } })

/-- `import_devices` for the data rows of a well-formed file: the batch and the database. -/
def importDevices (casing : Casing) (encrypt : String → String) (filename : String)
    (rows : List (ℕ × ImportCells)) (wall : Timestamp) (db : Database) : ℕ × Database :=
  let created := createImportBatch filename rows.length db
  let imported := importRows casing encrypt rows created.1 created.2
  (created.1.id, finishImport wall imported.1 imported.2)

/-- The devices that `upload_import` looks up and synchronizes. -/
def importedDevices (db : Database) (batchId : ℕ) : List Device :=
  (db.importRowResults.filter fun r => r.batchId = batchId && r.importStatus = .imported).filterMap
    fun r => r.deviceId.bind fun id => db.devices.find? (·.id = id)

end ConnectionTopology
