import ConnectionTopology.Routes.Requests

/-!
# The scheduler of the web processes

`scheduler.py`: the jobs `device-scan-d` of one process, and the changes of leadership.
Every process has a scheduler of its own; a stopped one keeps the jobs that are added to
it and starts them with itself. A request commits its transaction and synchronizes the
jobs of the process that serves it afterwards, one device at a time; a deletion removes
the job first.
-/
namespace ConnectionTopology

/-- A `BackgroundScheduler`: the interval of each device's job, one job per device. -/
structure Scheduler where
  running : Bool := false
  jobs : List (ℕ × ℕ) := []
  deriving DecidableEq, Repr

/-- The interval of the job `device-scan-d`. -/
def Scheduler.job? (s : Scheduler) (deviceId : ℕ) : Option ℕ :=
  (s.jobs.find? (·.1 = deviceId)).map (·.2)

def Scheduler.removeDevice (s : Scheduler) (deviceId : ℕ) : Scheduler :=
  { s with jobs := s.jobs.filter (·.1 ≠ deviceId) }

/-- `add_job` with `replace_existing`. -/
def Scheduler.addJob (s : Scheduler) (deviceId minutes : ℕ) : Scheduler :=
  { s with jobs := s.jobs.filter (·.1 ≠ deviceId) ++ [(deviceId, minutes)] }

def Scheduler.syncDevice (s : Scheduler) (device : Device) : Scheduler :=
  if device.collectionEnabled = false || !device.scheduledEnabled then s.removeDevice device.id
  else s.addJob device.id device.scanIntervalMinutes

/-- `_become_leader`. -/
def Scheduler.becomeLeader (s : Scheduler) (db : Database) : Scheduler :=
  if s.running then s
  else (db.devices.filter fun d => d.scheduledEnabled && d.collectionEnabled).foldl
    Scheduler.syncDevice { s with running := true }

/-- `_lose_leadership`. -/
def Scheduler.loseLeadership (s : Scheduler) : Scheduler := if s.running then {} else s

/-- What a request has still to do. -/
inductive OpenRequest
  /-- The devices to synchronize after the commit. -/
  | syncing (process : ℕ) (devices : List Device)
  /-- The job has been removed; the transaction of the deletion follows. -/
  | deleting (process deviceId : ℕ)
  deriving DecidableEq, Repr

/-- The web processes; `leader` holds the leader lock of the database. -/
structure WebState where
  db : Database
  schedulers : ℕ → Scheduler := fun _ => {}
  leader : Option ℕ := none
  requests : List OpenRequest := []

inductive WebAction
  | request (process : ℕ) (request : Request)
  | sync (request : ℕ)
  | startDelete (process deviceId : ℕ)
  | finishDelete (request : ℕ) (wall : Timestamp)
  | becomeLeader (process : ℕ)
  | loseLeadership (process : ℕ)
  deriving DecidableEq, Repr

def WebState.updateScheduler (s : WebState) (process : ℕ) (f : Scheduler → Scheduler) : WebState :=
  { s with schedulers := Function.update s.schedulers process (f (s.schedulers process)) }

/-- One step of the system; a refused request makes no step. -/
def WebState.step (b : Backend) (s : WebState) : WebAction → Option WebState
  | .request _ (.deleteDevice _ _) => none
  | .request process request =>
    match performRequest b s.db request with
    | .error _ => none
    | .ok (devices, db) =>
      some { s with db := db, requests := s.requests ++ [.syncing process devices] }
  | .sync n =>
    match s.requests[n]? with
    | some (.syncing process (device :: rest)) =>
      some { s.updateScheduler process (·.syncDevice device) with
        requests := s.requests.set n (.syncing process rest) }
    | _ => none
  | .startDelete process deviceId =>
    if s.db.devices.any (·.id = deviceId) then
      some { s.updateScheduler process (·.removeDevice deviceId) with
        requests := s.requests ++ [.deleting process deviceId] }
    else none
  | .finishDelete n wall =>
    match s.requests[n]? with
    | some (.deleting process deviceId) =>
      match deleteDevice deviceId wall s.db with
      | .error _ => none
      | .ok db => some { s with db := db, requests := s.requests.set n (.syncing process []) }
    | _ => none
  | .becomeLeader process =>
    if s.leader = none then
      some { s.updateScheduler process (·.becomeLeader s.db) with leader := some process }
    else none
  | .loseLeadership process =>
    if s.leader = some process then
      some { s.updateScheduler process Scheduler.loseLeadership with leader := none }
    else none

/-- No request is in progress. -/
def WebState.Quiescent (s : WebState) : Prop := ∀ r ∈ s.requests, ∃ process, r = .syncing process []

end ConnectionTopology
