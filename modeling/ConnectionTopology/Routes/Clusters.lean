import ConnectionTopology.Routes.Devices

/-!
# Requests on clusters

`add_cluster`, `edit_cluster` and `remove_cluster` of `api.py`. Editing pushes the scan
policy to the members and reports them, because their jobs have to be synchronized.
-/
namespace ConnectionTopology

/-- `ClusterCreate` and `ClusterUpdate`. -/
structure ClusterPayload where
  name : String
  description : Option String := none
  internalNetworks : List String := []
  historyRetentionDays : Option ℕ := none
  scanIntervalMinutes : ℕ := 5
  scheduledEnabled : Bool := true
  deriving DecidableEq, Repr

def ClusterPayload.accepted (p : ClusterPayload) : Bool :=
  lengthBetween 1 100 p.name && p.description.all (lengthBetween 0 500) &&
    p.historyRetentionDays.all (between 1 3650) && between 1 10080 p.scanIntervalMinutes

/-- The two `except` clauses of the cluster handlers. -/
def ClusterError.clusterApiError (e : ClusterError) : ApiError :=
  match e, e.message with
  | .clusterConflict, some message => .http 409 message
  | _, some message => .http 422 message
  | _, none => .internal

/-- The description without blanks around it, if anything is left. -/
def ClusterPayload.cleanDescription (p : ClusterPayload) : Option String :=
  match p.description with
  | none => none
  | some text => if Text.strip text = "" then none else some (Text.strip text)

/-- The fields that both handlers take from the payload. -/
def ClusterPayload.applyTo (p : ClusterPayload) (c : Cluster) : Cluster :=
  { c with
    description := p.cleanDescription
    historyRetentionDays := p.historyRetentionDays
    scanIntervalMinutes := p.scanIntervalMinutes
    scheduledEnabled := p.scheduledEnabled }

def addCluster (b : Backend) (p : ClusterPayload) (db : Database) : Except ApiError Database :=
  if !p.accepted then .error .validation
  else
    match createCluster b.toCasing p.name p.internalNetworks 5 true db with
    | .error e => .error e.clusterApiError
    | .ok (id, db) => .ok (db.updateCluster id p.applyTo)

/-- The cluster that bears a name already, unless it is the edited one. -/
def nameConflict (casing : Casing) (clusterId : ℕ) (name : String) (db : Database) :
    Except ClusterError Bool :=
  match findClusterByName casing name db with
  | .error e => .error e
  | .ok duplicate => .ok (duplicate.any (·.id ≠ clusterId))

/-- `edit_cluster`: the members whose jobs are synchronized next. -/
def editCluster (b : Backend) (clusterId : ℕ) (p : ClusterPayload) (db : Database) :
    Except ApiError (List Device × Database) :=
  if !p.accepted then .error .validation
  else
    match db.clusters.find? (·.id = clusterId) with
    | none => .error (.http 404 "集群不存在")
    | some cluster =>
      match normalizeClusterName p.name with
      | .error e => .error e.clusterApiError
      | .ok normalized =>
        match nameConflict b.toCasing clusterId normalized db with
        | .error e => .error e.clusterApiError
        | .ok true => .error ClusterError.clusterConflict.clusterApiError
        | .ok false =>
          if db.clusters.any fun c => c.id ≠ clusterId && c.name = normalized then .error .internal
          else
            match replaceInternalNetworks clusterId p.internalNetworks
                (db.updateCluster clusterId fun c => { p.applyTo c with name := normalized }) with
            | .error e => .error e.clusterApiError
            | .ok db => .ok (applyClusterScanPolicy (p.applyTo cluster) db)

def removeCluster (clusterId : ℕ) (db : Database) : Except ApiError Database :=
  if db.clusters.any (·.id = clusterId) then .ok (deleteCluster clusterId db)
  else .error (.http 404 "集群不存在")

end ConnectionTopology
