import ConnectionTopology.Models
import ConnectionTopology.Library.IpAddress
import Mathlib.Data.List.Sort
import Mathlib.Data.Prod.Lex

/-!
# Clusters and their scan policy

`clusters.py`: cluster names, internal networks, and the scan interval and schedule
switch that a cluster hands to its members. A new row takes its key from the sequence; its
description is set by the handler.
-/
namespace ConnectionTopology

/-- Lower case in Python and in the database; the database follows its locale. -/
structure Casing where
  lower : String → String
  dbLower : String → String

/-- What the functions of `clusters.py` raise. -/
inductive ClusterError
  | clusterNotFound
  | clusterConflict
  | valueError (message : String)
  /-- A violated constraint; the driver's own text. -/
  | integrityError
  deriving DecidableEq, Repr

def ClusterError.message : ClusterError → Option String
  | .clusterNotFound => some "所选集群不存在"
  | .clusterConflict => some "同名集群已存在"
  | .valueError message => some message
  | .integrityError => none

def normalizeClusterName (name : String) : Except ClusterError String :=
  let normalized := Text.strip name
  if normalized = "" then .error (.valueError "集群名称不能为空")
  else if 100 < normalized.length then .error (.valueError "集群名称不能超过 100 个字符")
  else .ok normalized

def findClusterByName (casing : Casing) (name : String) (db : Database) :
    Except ClusterError (Option Cluster) :=
  match normalizeClusterName name with
  | .error e => .error e
  | .ok normalized =>
    .ok (db.clusters.find? fun c => casing.dbLower c.name = casing.lower normalized)

/-! ## Internal networks -/

/-- `MAX_INTERNAL_NETWORKS`. -/
def maxInternalNetworks : ℕ := 100

/-- `network.with_prefixlen`. -/
def IPv4Network.withPrefixlen (network : IPv4Network) : String :=
  Text.join '.' ([2 ^ 24, 2 ^ 16, 2 ^ 8, 1].map fun unit => toString (network.network / unit % 256)) ++
    "/" ++ toString network.prefixLength

/-- The loop over the cleaned values; the third component is the text. -/
def normalizeNetworks : List String → List (ℕ × ℕ × String) →
    Except ClusterError (List (ℕ × ℕ × String))
  | [], seen => .ok seen
  | value :: rest, seen =>
    match ipNetwork value with
    | none => .error (.valueError ("内部地址段不是合法的 CIDR：" ++ value))
    | some none => .error (.valueError ("内部地址段仅支持 IPv4：" ++ value))
    | some (some network) =>
      let cidr := network.withPrefixlen
      if seen.any fun s => s.2.2 = cidr then .error (.valueError ("内部地址段重复：" ++ cidr))
      else normalizeNetworks rest (seen ++ [(network.network, network.prefixLength, cidr)])

def normalizeInternalNetworks (values : List String) : Except ClusterError (List String) :=
  let cleaned := (values.map Text.strip).filter (· ≠ "")
  if maxInternalNetworks < cleaned.length then
    .error (.valueError "单个集群最多配置 100 个内部地址段")
  else
    match normalizeNetworks cleaned [] with
    | .error e => .error e
    | .ok networks =>
      .ok ((networks.insertionSort fun a b => toLex (a.1, toLex (a.2.1, a.2.2)) ≤
        toLex (b.1, toLex (b.2.1, b.2.2))).map (·.2.2))

/-- The networks of a cluster after `replace_internal_networks`: rows that stay are kept. -/
def replacedNetworks (old normalized : List String) : List String :=
  let kept := old.filter (· ∈ normalized)
  kept ++ normalized.filter (· ∉ kept)

def Database.updateCluster (db : Database) (clusterId : ℕ) (f : Cluster → Cluster) : Database :=
  { db with clusters := db.clusters.map fun c => if c.id = clusterId then f c else c }

def replaceInternalNetworks (clusterId : ℕ) (cidrs : List String) (db : Database) :
    Except ClusterError Database :=
  match normalizeInternalNetworks cidrs with
  | .error e => .error e
  | .ok normalized => .ok (db.updateCluster clusterId fun c =>
      { c with internalNetworks := replacedNetworks c.internalNetworks normalized })

/-! ## Clusters -/

/-- `create_cluster`: the identifier of the new cluster. -/
def createCluster (casing : Casing) (name : String) (internalNetworks : List String)
    (scanIntervalMinutes : ℕ) (scheduledEnabled : Bool) (db : Database) :
    Except ClusterError (ℕ × Database) :=
  match normalizeClusterName name with
  | .error e => .error e
  | .ok normalized =>
    match findClusterByName casing normalized db with
    | .error e => .error e
    | .ok (some _) => .error .clusterConflict
    | .ok none =>
      if db.clusters.any (·.name = normalized) then .error .integrityError
      else
        let cluster : Cluster := {
          id := db.sequences.clusters
          name := normalized
          scanIntervalMinutes := scanIntervalMinutes
          scheduledEnabled := scheduledEnabled }
        let inserted := { db with
          clusters := db.clusters ++ [cluster]
          sequences := { db.sequences with clusters := db.sequences.clusters + 1 } }
        match replaceInternalNetworks cluster.id internalNetworks inserted with
        | .error e => .error e
        | .ok db => .ok (cluster.id, db)

/-- `apply_cluster_scan_policy`: the members, rewritten. -/
def applyClusterScanPolicy (cluster : Cluster) (db : Database) : List Device × Database :=
  let follow := fun d : Device => { d with
    scanIntervalMinutes := cluster.scanIntervalMinutes
    scheduledEnabled := cluster.scheduledEnabled }
  ((db.devices.filter (·.clusterId = some cluster.id)).map follow,
    { db with devices := db.devices.map fun d =>
        if d.clusterId = some cluster.id then follow d else d })

def clusterScanValues (cluster : Option Cluster) (requestedInterval : ℕ)
    (requestedEnabled : Bool) : ℕ × Bool :=
  match cluster with
  | none => (requestedInterval, requestedEnabled)
  | some c => (c.scanIntervalMinutes, c.scheduledEnabled)

/-- `resolve_cluster`: the chosen, found or new cluster. -/
def resolveCluster (casing : Casing) (clusterId : Option ℕ) (newClusterName : Option String)
    (db : Database) : Except ClusterError (Option Cluster × Database) :=
  match clusterId with
  | some id =>
    if newClusterName.getD "" ≠ "" then .error (.valueError "不能同时选择已有集群和新建集群")
    else
      match db.clusters.find? (·.id = id) with
      | none => .error .clusterNotFound
      | some cluster => .ok (some cluster, db)
  | none =>
    if Text.strip (newClusterName.getD "") = "" then .ok (none, db)
    else
      match findClusterByName casing (newClusterName.getD "") db with
      | .error e => .error e
      | .ok (some cluster) => .ok (some cluster, db)
      | .ok none =>
        match createCluster casing (newClusterName.getD "") [] 5 true db with
        | .error e => .error e
        | .ok (id, db) => .ok (db.clusters.find? (·.id = id), db)

/-- `delete_cluster`: the members become ungrouped. -/
def deleteCluster (clusterId : ℕ) (db : Database) : Database :=
  { db with
    clusters := db.clusters.filter (·.id ≠ clusterId)
    devices := db.devices.map fun d =>
      if d.clusterId = some clusterId then { d with clusterId := none } else d
    scanBatches := db.scanBatches.map fun b =>
      if b.clusterId = some clusterId then { b with clusterId := none } else b }

end ConnectionTopology
