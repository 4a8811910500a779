import ConnectionTopology.Routes.Devices
import ConnectionTopology.Services.DeviceListing
import ConnectionTopology.Services.ScanBatchFailures
import ConnectionTopology.Services.ScanQueue

/-!
# Requests for scans, batches and lists

A request for scans reads in its own session and calls the queue afterwards, whose transaction may
find another database: `seen` is what the request has read, `db` what the queue finds.
-/
namespace ConnectionTopology

/-! ## Scans -/

/-- What the routes make of an exception of the queue. -/
def queueApiError : QueueError → ApiError
  | .scanQueueFull => .http 429 "扫描队列已满，请稍后重试"
  | _ => .internal

/-- `run_scan`: the task. -/
def runScan (queueSize deviceId : ℕ) (seen : Database) (wall : Timestamp) (db : Database) :
    Except ApiError (ℕ × Database) :=
  match seen.devices.find? (·.id = deviceId) with
  | none => .error (.http 404 "设备不存在")
  | some device =>
    if !device.collectionEnabled then .error (.http 409 collectionDisabledMessage)
    else
      match enqueueDevice queueSize deviceId .manual priorityManual none wall db with
      | .error .deviceCollectionDisabled => .error (.http 409 collectionDisabledMessage)
      | .error e => .error (queueApiError e)
      | .ok r => .ok r

inductive BatchScope
  | all
  | cluster
  deriving DecidableEq, Repr

structure BatchScanCreate where
  scope : BatchScope
  clusterId : Option ℕ := none
  deriving DecidableEq, Repr

/-- The field check and `validate_scope`. -/
def BatchScanCreate.accepted (p : BatchScanCreate) : Bool :=
  p.clusterId.all (1 ≤ ·) &&
    match p.scope with
    | .all => p.clusterId.isNone
    | .cluster => p.clusterId.isSome

/-- The keys of the devices that are enabled, of one cluster or of all, in their order. -/
def enabledDeviceIds (clusterId : Option ℕ) (db : Database) : List ℕ :=
  ((db.devices.filter fun d => d.collectionEnabled && clusterId.all (d.clusterId = some ·)).map
    (·.id)).insertionSort (· ≤ ·)

/-- The call of `create_batch` and its exceptions. -/
def requestBatch (queueSize : ℕ) (batchType : ScanBatchType) (deviceIds : List ℕ)
    (clusterId : Option ℕ) (wall : Timestamp) (db : Database) : Except ApiError (ℕ × Database) :=
  match createBatch queueSize batchType deviceIds clusterId none wall db with
  | .error e => .error (queueApiError e)
  | .ok r => .ok r

/-- `create_scan_batch`: the batch. -/
def createScanBatch (queueSize : ℕ) (p : BatchScanCreate) (seen : Database) (wall : Timestamp)
    (db : Database) : Except ApiError (ℕ × Database) :=
  if !p.accepted then .error .validation
  else
    match p.clusterId with
    | none => requestBatch queueSize .all (enabledDeviceIds none seen) none wall db
    | some clusterId =>
      if seen.clusters.any (·.id = clusterId) then
        requestBatch queueSize .cluster (enabledDeviceIds (some clusterId) seen) (some clusterId)
          wall db
      else .error (.http 404 "集群不存在")

/-- `retry_scan_batch_failures`: the new batch. -/
def retryScanBatchFailures (queueSize batchId : ℕ) (seen : Database) (wall : Timestamp)
    (db : Database) : Except ApiError (ℕ × Database) :=
  if !seen.scanBatches.any (·.id = batchId) then .error (.http 404 "扫描批次不存在")
  else if failedDeviceIds batchId seen = [] then .error (.http 409 "该批次当前没有失败设备")
  else requestBatch queueSize .retry (failedDeviceIds batchId seen) none wall db

/-! ## Lists -/

def getScanBatchFailures (lower : Char → Char) (batchId : ℕ) (page pageSize : ℤ) (q : String)
    (db : Database) : Except ApiError BatchFailurePage :=
  if page < 1 || pageSize < 1 || 100 < pageSize || 200 < q.length then .error .validation
  else
    match listBatchFailures lower batchId page.toNat pageSize.toNat q db with
    | .error detail => .error (.http 404 detail)
    | .ok found => .ok found

/-- What `devices_page` sends. -/
inductive DevicesResponse
  | rendered (page : DevicePage)
  /-- Without `q` where it is empty. -/
  | redirect (q : Option String) (page pageSize : ℕ)
  deriving DecidableEq, Repr

def devicesPage (collation : LinearOrder String) (q : String) (page pageSize : ℤ) (db : Database) :
    Except ApiError DevicesResponse :=
  if page < 1 || 255 < q.length then .error .validation
  else if pageSize ∉ allowedPageSizes then .error (.http 422 "每页数量仅支持 20、50、100")
  else
    match listDevicePage collation q page pageSize db with
    | .error _ => .error .internal
    | .ok shown =>
      if page ≠ shown.page ∨ q ≠ shown.query then
        .ok (.redirect (if shown.query = "" then none else some shown.query) shown.page
          shown.pageSize)
      else .ok (.rendered shown)

end ConnectionTopology
