import ConnectionTopology.Services.ImportTests
import ConnectionTopology.ScanQueue.ClaimInterleaving

/-!
# Connection tests, statement by statement

`claim_import_tests`, `renew_import_test_leases`, `_save_result_for_worker` and
`_claim_specific` as READ COMMITTED transactions, one statement per action. A transaction
takes its `now` from the clock when it begins and keeps its row locks to the end. The two
claims share one advisory lock, but `_claim_specific` asks for it only after it has read the
row, and then writes the columns of the object in hand. Batch counters are left out, because
no statement here reads them.
-/
namespace ConnectionTopology

inductive SpecificStage
  /-- Before `session.get`. -/
  | reading
  /-- The row was pending; the transaction waits for the advisory lock. -/
  | waiting (row : ImportRowResult)
  | locked (row : ImportRowResult)
  /-- The global limit leaves room. -/
  | counted (row : ImportRowResult)
  /-- The row has been locked and updated from the object in hand. -/
  | written (row : ImportRowResult)
  deriving DecidableEq, Repr

/-- `_claim_specific`. -/
structure SpecificTx where
  workerId : String
  rowId : ℕ
  leaseSeconds : ℕ
  now : Timestamp
  stage : SpecificStage := .reading
  deriving DecidableEq, Repr

/-- `_save_result_for_worker`. -/
structure SaveTx where
  workerId : String
  rowId : ℕ
  outcome : ImportTestOutcome
  now : Timestamp
  holding : Bool := false
  deriving DecidableEq, Repr

inductive TestTx
  | claim (c : ClaimTx)
  | renew (r : RenewTx)
  | save (t : SaveTx)
  | specific (c : SpecificTx)
  | done
  deriving DecidableEq, Repr

/-- The rows that a transaction has locked. -/
def TestTx.locked : TestTx → List ℕ
  | .claim c =>
    match c.stage with
    | .waiting | .locked => []
    | .swept expired | .counted expired _ => expired
    | .claiming expired rows => expired ++ rows
  | .renew r => r.renewed
  | .save t => if t.holding then [t.rowId] else []
  | .specific c =>
    match c.stage with
    | .written _ => [c.rowId]
    | _ => []
  | .done => []

/-- The transaction has been granted the advisory lock. -/
def TestTx.holdsLock : TestTx → Bool
  | .claim c => c.holdsLock
  | .specific c =>
    match c.stage with
    | .locked _ | .counted _ | .written _ => true
    | _ => false
  | _ => false

structure TestRowState where
  db : Database
  clock : Timestamp := 0
  txs : List TestTx := []
  /-- The rows claimed by committed transactions, one entry per claim. -/
  claims : List ℕ := []
  deriving DecidableEq, Repr

def TestRowState.lockedByOther (s : TestRowState) (n rowId : ℕ) : Bool :=
  RowLocks.lockedByOther TestTx.locked s.txs n rowId

def TestRowState.lockFree (s : TestRowState) : Bool := s.txs.all fun tx => !tx.holdsLock

/-! ## `claim_import_tests` -/

/-- The committed rows as the claim sees them after its sweep. -/
def sweptRows (expired : List ℕ) (rows : List ImportRowResult) : List ImportRowResult :=
  rows.map fun r => if r.id ∈ expired then r.requeued else r

/-- The rows of the `PENDING` query: ordered, unlocked, limited. -/
def TestRowState.pendingRows (s : TestRowState) (n : ℕ) (expired : List ℕ) (limit : ℕ) : List ℕ :=
  (((sweptRows expired s.db.importRowResults).filter fun r =>
    r.testStatus = .pending && !s.lockedByOther n r.id).insertionSort
      (fun a b => a.id ≤ b.id) |>.take limit).map (·.id)

def ClaimTx.testStep (globalLimit : ℕ) (s : TestRowState) (n : ℕ) (c : ClaimTx) :
    Option ClaimTx :=
  match c.stage with
  | .waiting => if s.lockFree then some { c with stage := .locked } else none
  | .locked =>
    let expired := (s.db.importRowResults.filter fun r =>
      r.isExpired c.now && !s.lockedByOther n r.id).map (·.id)
    some { c with stage := .swept expired }
  | .swept expired =>
    let active := (sweptRows expired s.db.importRowResults).countP fun r =>
      r.testStatus = .running && r.isLeased c.now
    some { c with stage := .counted expired (min c.localCapacity (globalLimit - active)) }
  | .counted expired limit =>
    some { c with stage := .claiming expired (s.pendingRows n expired limit) }
  | .claiming _ _ => none

/-- The rows as the claim commits them. -/
def ClaimTx.testCommit (c : ClaimTx) (expired rows : List ℕ) (db : Database) : Database :=
  { db with
    importRowResults := (sweptRows expired db.importRowResults).map fun r =>
      if r.id ∈ rows then
        r.claimedBy c.workerId c.now (c.now + c.leaseSeconds * microsPerSecond)
      else r }

/-! ## `_claim_specific` -/

def SpecificTx.step (globalLimit : ℕ) (s : TestRowState) (n : ℕ) (c : SpecificTx) :
    Option TestTx :=
  match c.stage with
  | .reading =>
    match s.db.importRowResults.find? (·.id = c.rowId) with
    | none => some .done
    | some row =>
      if row.testStatus = .pending then some (.specific { c with stage := .waiting row })
      else some .done
  | .waiting row =>
    if s.lockFree then some (.specific { c with stage := .locked row }) else none
  | .locked row =>
    if activeTests c.now s.db < globalLimit then some (.specific { c with stage := .counted row })
    else some .done
  | .counted row =>
    if s.lockedByOther n c.rowId then none else some (.specific { c with stage := .written row })
  | .written _ => none

/-- The columns that the update sets, computed from the object in hand. -/
def SpecificTx.commit (c : SpecificTx) (row : ImportRowResult) (db : Database) : Database :=
  let claimed := row.claimedBy c.workerId c.now (c.now + c.leaseSeconds * microsPerSecond)
  db.updateImportRows [c.rowId] fun r =>
    { r with
      testStatus := claimed.testStatus
      testMessage := claimed.testMessage
      testWorkerId := claimed.testWorkerId
      testHeartbeatAt := claimed.testHeartbeatAt
      testLeaseExpiresAt := claimed.testLeaseExpiresAt
      testAttemptCount := claimed.testAttemptCount }

/-! ## Renewing and saving -/

def RenewTx.testStep (s : TestRowState) (n : ℕ) (r : RenewTx) : Option RenewTx :=
  match r.todo with
  | none =>
    some { r with todo := some ((s.db.importRowResults.filter fun row =>
      row.id ∈ r.taskIds && row.isHeldBy r.workerId r.now).map (·.id)) }
  | some [] => none
  | some (rowId :: rest) =>
    if s.lockedByOther n rowId then none
    else if (heldRow r.workerId rowId r.now s.db).isSome then
      some { r with todo := some rest, renewed := r.renewed ++ [rowId] }
    else some { r with todo := some rest }

def RenewTx.testCommit (r : RenewTx) (db : Database) : Database :=
  db.updateImportRows r.renewed fun row =>
    { row with
      testHeartbeatAt := some r.now
      testLeaseExpiresAt := some (r.now + r.leaseSeconds * microsPerSecond) }

/-- `SELECT ... FOR UPDATE`; without a row the lease is lost and the transaction over. -/
def SaveTx.lock (s : TestRowState) (n : ℕ) (t : SaveTx) : Option TestTx :=
  if t.holding then none
  else
    match heldRow t.workerId t.rowId t.now s.db with
    | none => some .done
    | some row => if s.lockedByOther n row.id then none else some (.save { t with holding := true })

def SaveTx.commit (t : SaveTx) (db : Database) : Database :=
  db.updateImportRows [t.rowId] (ImportRowResult.withOutcome t.outcome)

/-! ## Interleaving -/

inductive TestRowAction
  | tick (duration : ℕ)
  | beginClaim (workerId : String) (localCapacity leaseSeconds : ℕ)
  | claim (tx : ℕ)
  | commitClaim (tx : ℕ)
  | beginRenew (workerId : String) (rowIds : List ℕ) (leaseSeconds : ℕ)
  | renew (tx : ℕ)
  | commitRenew (tx : ℕ)
  | beginSave (workerId : String) (rowId : ℕ) (outcome : ImportTestOutcome)
  | lockRow (tx : ℕ)
  | commitSave (tx : ℕ)
  | beginSpecific (workerId : String) (rowId leaseSeconds : ℕ)
  | specific (tx : ℕ)
  | commitSpecific (tx : ℕ)
  | rollback (tx : ℕ)
  deriving DecidableEq, Repr

def TestRowState.setTx (s : TestRowState) (n : ℕ) (tx : TestTx) : TestRowState :=
  { s with txs := s.txs.set n tx }

def TestRowState.begin (s : TestRowState) (tx : TestTx) : TestRowState :=
  { s with txs := s.txs ++ [tx] }

/-- The transaction commits this database and, for a claim, the rows that it claimed. -/
def TestRowState.finish (s : TestRowState) (n : ℕ) (db : Database) (claimed : List ℕ) :
    TestRowState :=
  { s with db := db, txs := s.txs.set n .done, claims := s.claims ++ claimed }

def TestRowState.step (globalLimit : ℕ) (s : TestRowState) : TestRowAction → Option TestRowState
  | .tick duration => some { s with clock := s.clock + duration }
  | .beginClaim workerId localCapacity leaseSeconds =>
    if localCapacity = 0 then none
    else some (s.begin (.claim { workerId, localCapacity, leaseSeconds, now := s.clock }))
  | .claim n =>
    match s.txs[n]? with
    | some (.claim c) => (c.testStep globalLimit s n).map fun c => s.setTx n (.claim c)
    | _ => none
  | .commitClaim n =>
    match s.txs[n]? with
    | some (.claim c) =>
      match c.stage with
      | .claiming expired rows => some (s.finish n (c.testCommit expired rows s.db) rows)
      | _ => none
    | _ => none
  | .beginRenew workerId rowIds leaseSeconds =>
    some (s.begin (.renew { workerId, taskIds := rowIds, leaseSeconds, now := s.clock }))
  | .renew n =>
    match s.txs[n]? with
    | some (.renew r) => (r.testStep s n).map fun r => s.setTx n (.renew r)
    | _ => none
  | .commitRenew n =>
    match s.txs[n]? with
    | some (.renew r) => if r.todo = some [] then some (s.finish n (r.testCommit s.db) []) else none
    | _ => none
  | .beginSave workerId rowId outcome =>
    some (s.begin (.save { workerId, rowId, outcome, now := s.clock }))
  | .lockRow n =>
    match s.txs[n]? with
    | some (.save t) => (t.lock s n).map fun tx => s.setTx n tx
    | _ => none
  | .commitSave n =>
    match s.txs[n]? with
    | some (.save t) => if t.holding then some (s.finish n (t.commit s.db) []) else none
    | _ => none
  | .beginSpecific workerId rowId leaseSeconds =>
    some (s.begin (.specific { workerId, rowId, leaseSeconds, now := s.clock }))
  | .specific n =>
    match s.txs[n]? with
    | some (.specific c) => (c.step globalLimit s n).map fun tx => s.setTx n tx
    | _ => none
  | .commitSpecific n =>
    match s.txs[n]? with
    | some (.specific c) =>
      match c.stage with
      | .written row => some (s.finish n (c.commit row s.db) [c.rowId])
      | _ => none
    | _ => none
  | .rollback n => some (s.setTx n .done)

end ConnectionTopology
