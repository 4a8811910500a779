import ConnectionTopology.Routes.Clusters
import ConnectionTopology.Services.Imports
import ConnectionTopology.Library.Machine

/-!
# Requests that write devices and clusters

One step is one whole request. A refused request is rolled back and leaves the database
as it was.
-/
namespace ConnectionTopology

inductive Request
  | createDevice (payload : DeviceCreate)
  | updateDevice (deviceId : ℕ) (payload : DeviceUpdate)
  | deleteDevice (deviceId : ℕ) (wall : Timestamp)
  | addCluster (payload : ClusterPayload)
  | editCluster (clusterId : ℕ) (payload : ClusterPayload)
  | removeCluster (clusterId : ℕ)
  | importDevices (filename : String) (rows : List (ℕ × ImportCells)) (wall : Timestamp)
  deriving DecidableEq, Repr

/-- The devices that the handler hands to `sync_device`, and the committed database. -/
def performRequest (b : Backend) (db : Database) :
    Request → Except ApiError (List Device × Database)
  | .createDevice payload => (createDevice b payload db).map fun r => ([r.1], r.2)
  | .updateDevice deviceId payload => (updateDevice b deviceId payload db).map fun r => ([r.1], r.2)
  | .deleteDevice deviceId wall =>
    match deleteDevice deviceId wall db with
    | .error e => .error (.http e.status e.detail)
    | .ok db => .ok ([], db)
  | .addCluster payload => (addCluster b payload db).map fun db => ([], db)
  | .editCluster clusterId payload => editCluster b clusterId payload db
  | .removeCluster clusterId => (removeCluster clusterId db).map fun db => ([], db)
  | .importDevices filename rows wall =>
    let imported := importDevices b.toCasing b.encrypt filename rows wall db
    .ok (importedDevices imported.2 imported.1, imported.2)

/-- A request is always answered. -/
def requestStep (b : Backend) (db : Database) (request : Request) : Option Database :=
  match performRequest b db request with
  | .error _ => some db
  | .ok r => some r.2

end ConnectionTopology
