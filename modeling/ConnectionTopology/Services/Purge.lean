import ConnectionTopology.Models
import ConnectionTopology.Library.Dict
import Mathlib.Data.List.Sort
import Mathlib.Data.Prod.Lex

/-!
# Retention

The purges of `scheduler.py`. `purge_expired_scans` deletes the scans that are older than the
retention of their device, chunk by chunk, and the foreign keys delete what belongs to them.
`purge_raw_connection_records` deletes the raw rows of old scans, chunk by chunk above a
watermark, except those of the two latest successful scans of each device. The scans and their
observations stay.
-/
namespace ConnectionTopology

/-- `RAW_RETENTION_KEPT_SCANS_PER_DEVICE`. -/
def rawRetentionKeptScansPerDevice : ℕ := 2

/-- The partition of a device: `ORDER BY started_at DESC, id DESC`. -/
def successfulScans (deviceId : ℕ) (db : Database) : List ScanRun :=
  (db.scanRuns.filter fun s => s.deviceId = deviceId ∧ s.status = .success).insertionSort
    fun a b => toLex (b.startedAt, b.id) ≤ toLex (a.startedAt, a.id)

/-- `kept_scan_ids`. -/
def keptScanIds (db : Database) : List ℕ :=
  (db.scanRuns.map (·.deviceId)).dedup.flatMap fun deviceId =>
    ((successfulScans deviceId db).take rawRetentionKeptScansPerDevice).map (·.id)

/-- The next scans of the loop, in the order of their identifiers. -/
def rawPurgeChunk (cutoff : Timestamp) (chunkSize lastScanId : ℕ) (db : Database) : List ℕ :=
  (((db.scanRuns.filter fun s =>
    s.startedAt < cutoff ∧ lastScanId < s.id ∧ s.id ∉ keptScanIds db).map (·.id)).insertionSort
      (· ≤ ·)).take chunkSize

/-- `DELETE FROM connection_records WHERE scan_run_id IN (...)`. -/
def deleteConnectionRecords (scanIds : List ℕ) (db : Database) : Database :=
  { db with connectionRecords := db.connectionRecords.filter (·.scanRunId ∉ scanIds) }

/-- The loop; `none` means that the rounds did not suffice. -/
def rawPurgeLoop (cutoff : Timestamp) (chunkSize : ℕ) :
    ℕ → ℕ → ℕ → Database → Option (ℕ × Database)
  | 0, _, _, _ => none
  | rounds + 1, deleted, lastScanId, db =>
    match (rawPurgeChunk cutoff chunkSize lastScanId db).getLast? with
    | none => some (deleted, db)
    | some last =>
      let scanIds := rawPurgeChunk cutoff chunkSize lastScanId db
      let removed := db.connectionRecords.countP (·.scanRunId ∈ scanIds)
      rawPurgeLoop cutoff chunkSize rounds (deleted + removed) last
        (deleteConnectionRecords scanIds db)

/-- Every round but the last takes a scan that no earlier round has taken. -/
def purgeRawConnectionRecords (rawDays : ℕ) (now : Timestamp) (chunkSize : ℕ) (db : Database) :
    Option (ℕ × Database) :=
  rawPurgeLoop (now - rawDays * 24 * 3600 * microsPerSecond) chunkSize (db.scanRuns.length + 1) 0 0 db

/-! ## Expired scans -/

/-- `resolve_device_retention`, in days. -/
def resolveDeviceRetention (device : Device) (systemDays : ℕ) (db : Database) : ℕ :=
  match device.historyRetentionDays with
  | some days => days
  | none =>
    ((device.clusterId.bind fun id => db.clusters.find? (·.id = id)).bind
      (·.historyRetentionDays)).getD systemDays

/-- `DELETE FROM scan_runs WHERE id IN (...)` with the `ON DELETE` rules of the tables that refer
to it. -/
def deleteScanRuns (scanIds : List ℕ) (db : Database) : Database :=
  { db with
    scanRuns := db.scanRuns.filter (·.id ∉ scanIds)
    connectionRecords := db.connectionRecords.filter (·.scanRunId ∉ scanIds)
    observations := db.observations.filter (·.scanRunId ∉ scanIds)
    scanTasks := db.scanTasks.map fun t =>
      { t with scanRunId := t.scanRunId.filter (· ∉ scanIds) } }

/-- `_delete_scans_in_chunks`; `none` means that the rounds did not suffice. -/
def deleteScansInChunks (conditions : ScanRun → Bool) (chunkSize : ℕ) :
    ℕ → ℕ → Database → Option (ℕ × Database)
  | 0, _, _ => none
  | rounds + 1, deleted, db =>
    let scanIds := (((db.scanRuns.filter conditions).map (·.id)).insertionSort (· ≤ ·)).take chunkSize
    if scanIds = [] then some (deleted, db)
    else
      let removed := db.scanRuns.countP (·.id ∈ scanIds)
      deleteScansInChunks conditions chunkSize rounds (deleted + removed) (deleteScanRuns scanIds db)

/-- The devices of every retention, in the order of the first device with it. -/
def retentionGroups (systemDays : ℕ) (db : Database) : Dict ℕ (List ℕ) :=
  Dict.appendAll (db.devices.map fun d => (resolveDeviceRetention d systemDays db, d.id))

/-- The loop over the groups. -/
def purgeGroups (now : Timestamp) (chunkSize : ℕ) :
    List (ℕ × List ℕ) → ℕ → Database → Option (ℕ × Database)
  | [], deleted, db => some (deleted, db)
  | (days, deviceIds) :: groups, deleted, db =>
    let cutoff := now - days * 24 * 3600 * microsPerSecond
    (deleteScansInChunks (fun s => s.deviceId ∈ deviceIds && s.startedAt < cutoff) chunkSize
      (db.scanRuns.length + 1) 0 db).bind fun r =>
        purgeGroups now chunkSize groups (deleted + r.1) r.2

def purgeExpiredScans (systemDays : ℕ) (now : Timestamp) (chunkSize : ℕ) (db : Database) :
    Option (ℕ × Database) :=
  purgeGroups now chunkSize (retentionGroups systemDays db).entries 0 db

end ConnectionTopology
