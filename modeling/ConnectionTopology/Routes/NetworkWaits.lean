import ConnectionTopology.Routes.RemoteCalls

/-!
# Database connections during network waits

Every session that the entry points open is closed again. All of them but `update_device`
call the remote host before they touch the database or with every session closed.
-/
namespace ConnectionTopology.RemoteCalls

open Sessions

variable {env : Surroundings}

/-! ## Sessions of one operation -/

section
variable {C : List (RemoteCall × List SessionState) → Prop}

theorem keeps_select {α : Type} {session : ℕ} {f : Timestamp → Database → α} :
    Keeps (Within C session) (env.select session f) (Within C session) := by
  unfold Surroundings.select
  apply (keeps_ask _).seq
  intro found
  apply keeps_perform.seq
  intro _
  exact keeps_pure found

theorem keeps_work {α : Type} {session : ℕ} {f : Timestamp → Database → α} :
    Keeps (Within C session) (env.work session f) (Within C session) := by
  unfold Surroundings.work
  apply (keeps_ask _).seq
  intro result
  apply (keeps_ask _).seq
  intro statements
  apply (keeps_performAll statements).seq
  intro _
  exact keeps_pure result

theorem keeps_rollbackSafely {session : ℕ} :
    Keeps (Released C) (rollbackSafely env session) (Released C) := by
  have hrollback : Keeps (Released C) (env.perform session .rollback) (Released C) := by
    apply (keeps_perform_release (by decide)).mono
    · intro t h
      exact h.within session
    · intro t h
      exact h
  apply hrollback.handled
  intro e
  split
  · exact keeps_throw _
  · exact keeps_pure ()

/-- Each attempt closes its session. -/
theorem keeps_runAttempts {α : Type} {operation : ℕ → Program RemoteCall Raised α}
    (h : ∀ session, Keeps (Within C session) (operation session) (Within C session)) (left : ℕ) :
    Keeps (Released C) (runAttempts env operation left) (Released C) := by
  induction left with
  | zero => exact keeps_throw _
  | succ left ih =>
    rw [runAttempts]
    apply keeps_openSession.seq
    intro session
    apply Keeps.handled
    · apply Keeps.closing
      have hattempt : Keeps (Within C session)
          (do
            let result ← operation session
            env.perform session .commit
            pure result) (Within C session) := by
        apply (h session).seq
        intro result
        apply keeps_perform.seq
        intro _
        exact keeps_pure result
      exact hattempt.fromReleased
    · intro e
      split
      · apply keeps_rollbackSafely.seq
        intro _
        split_ifs
        · exact keeps_throw _
        · exact keeps_throw _
        · exact keeps_throw _
        · exact ih
      · apply keeps_rollbackSafely.seq
        intro _
        exact keeps_throw _
      · exact keeps_throw _

theorem keeps_runTransaction {α : Type} {operation : ℕ → Program RemoteCall Raised α}
    (h : ∀ session, Keeps (Within C session) (operation session) (Within C session)) :
    Keeps (Released C) (runTransaction env operation) (Released C) :=
  keeps_runAttempts h _

theorem keeps_writeRequest {P : Thread RemoteCall → Prop} {α : Type}
    {body : Program RemoteCall Raised α} (h : Keeps P body P) :
    Keeps P (writeRequest body) P := by
  apply h.handled
  intro e
  split
  · split_ifs <;> exact keeps_throw _
  · exact keeps_throw _
  · exact keeps_throw _

theorem keeps_requestCluster {db : ℕ} {clusterId : Option ℕ} {newClusterName : Option String} :
    Keeps (Within C db) (requestCluster env db clusterId newClusterName) (Within C db) := by
  unfold requestCluster
  apply keeps_work.seq
  intro resolved
  split
  · exact keeps_pure _
  · split
    · exact keeps_throw _
    · apply keeps_perform.seq
      intro _
      exact keeps_throw _

theorem keeps_commitDevice {db : ℕ} :
    Keeps (Within C db) (commitDevice env db) (Within C db) := by
  unfold commitDevice
  apply Keeps.handled
  · apply keeps_perform.seq
    intro _
    exact keeps_perform
  · intro e
    split_ifs
    · apply keeps_perform.seq
      intro _
      exact keeps_throw _
    · exact keeps_throw _

theorem keeps_writeUpdate {db : ℕ} {p : DeviceUpdate} :
    Keeps (Within C db) (writeUpdate env db p) (Within C db) := by
  have hcommit : Keeps (Within C db)
      (do
        commitDevice env db
        env.perform db .statement) (Within C db) := by
    apply keeps_commitDevice.seq
    intro _
    exact keeps_perform
  unfold writeUpdate
  apply Keeps.seq
  · apply keeps_writeRequest
    dsimp only
    split_ifs
    · apply keeps_requestCluster.seq
      intro _
      exact hcommit
    · exact hcommit
  · intro _
    exact keeps_perform

theorem keeps_persistScan {taskId : ℕ} {outcome : ScanOutcome} :
    Keeps (Released C) (persistScan env taskId outcome) (Released C) := by
  apply keeps_runTransaction
  intro session
  apply keeps_work.seq
  intro persisted
  split
  · exact keeps_throw _
  · exact keeps_pure _

theorem keeps_loadScanTarget {deviceId : ℕ} :
    Keeps (Released C) (loadScanTarget env deviceId) (Released C) := by
  apply keeps_withSession
  intro session
  apply Keeps.fromReleased
  apply keeps_select.seq
  intro found
  split
  · exact keeps_throw _
  · split_ifs
    · exact keeps_throw _
    · exact keeps_pure _

theorem keeps_loadImportTarget {rowId : ℕ} :
    Keeps (Released C) (loadImportTarget env rowId) (Released C) := by
  apply keeps_runTransaction
  intro session
  apply keeps_work.seq
  intro loaded
  split
  · exact keeps_throw _
  · exact keeps_pure _

theorem keeps_saveRowResult {rowId : ℕ} {outcome : ImportTestOutcome} :
    Keeps (Released C) (saveRowResult env rowId outcome) (Released C) := by
  apply keeps_runTransaction
  intro session
  apply keeps_work.seq
  intro saved
  split
  · exact keeps_throw _
  · exact keeps_pure _

theorem keeps_saveInternalFailure {rowId : ℕ} {e : Raised} :
    Keeps (Released C) (saveInternalFailure env rowId e) (Released C) := by
  unfold saveInternalFailure
  apply Keeps.handled
  · apply (keeps_runTransaction fun _ => keeps_work).seq
    intro _
    apply keeps_saveRowResult.seq
    intro _
    exact keeps_pure _
  · intro e
    split
    · exact keeps_pure _
    · exact keeps_throw _

end

/-! ## Calls with every session released -/

section
variable {C : List (RemoteCall × List SessionState) → Prop}
variable (hC : ∀ call calls sessions, C calls → (∀ s ∈ sessions, s = .idle) →
  C (calls ++ [(call, sessions)]))
include hC

theorem keeps_requestTest {osType : Option OSType} {host : Option String} {port : Option ℕ}
    {username : Option String} {password : String} :
    Keeps (Released C) (requestTest env osType host port username password) (Released C) := by
  unfold requestTest testConnection
  apply Keeps.handled
  · split
    · exact keeps_throw _
    · exact keeps_remote (hC _)
  · intro e
    split <;> exact keeps_throw _

theorem keeps_testDevice {p : DeviceTest} :
    Keeps (Released C) (testDevice env p) (Released C) := by
  unfold testDevice
  split_ifs
  · exact keeps_throw _
  · apply keeps_withSession
    intro session
    have htest : Keeps (Released C)
        (do
          let _ ← requestTest env (some p.osType) (some p.host) (some p.effectivePort)
            (some p.username) p.password) (Released C) := by
      apply (keeps_requestTest hC).seq
      intro _
      exact keeps_pure _
    apply htest.mono
    · intro t ht
      exact ht
    · intro t ht
      exact ht.within session

theorem keeps_createDevice {p : DeviceCreate} :
    Keeps (Released C) (createDevice env p) (Released C) := by
  unfold createDevice
  split_ifs
  · exact keeps_throw _
  · apply keeps_withSession
    intro db
    -- the session is not used before the host has answered
    apply (keeps_requestTest hC).bind
    · intro _
      have hwrite : Keeps (Within C db)
          (do
            writeRequest do
              let _ ← requestCluster env db p.clusterId p.newClusterName
              commitDevice env db
              env.perform db .statement
            env.perform db .statement) (Within C db) := by
        apply Keeps.seq
        · apply keeps_writeRequest
          apply keeps_requestCluster.seq
          intro _
          apply keeps_commitDevice.seq
          intro _
          exact keeps_perform
        · intro _
          exact keeps_perform
      exact hwrite.fromReleased
    · intro t ht
      exact ht.within db

theorem keeps_collect {deviceId : ℕ} {trigger : ScanTrigger} :
    Keeps (Released C) (collect env deviceId trigger) (Released C) := by
  unfold collect
  apply (keeps_ask _).seq
  intro locked
  split_ifs
  · exact keeps_throw _
  · apply keeps_loadScanTarget.seq
    intro target
    apply (keeps_ask _).seq
    intro startedAt
    split
    · exact keeps_pure _
    · apply Keeps.handled
      · apply (keeps_remote (hC _)).seq
        intro result
        apply (keeps_ask _).seq
        intro finishedAt
        exact keeps_pure _
      · intro e
        apply (keeps_ask _).seq
        intro finishedAt
        exact keeps_pure _

theorem keeps_executeTask {taskId : ℕ} :
    Keeps (Released C) (executeTask env taskId) (Released C) := by
  unfold executeTask
  apply Keeps.seq
  · apply keeps_withSession
    intro session
    apply Keeps.fromReleased
    apply keeps_select.seq
    intro found
    split
    · exact keeps_throw _
    · exact keeps_pure _
  · intro task
    apply (keeps_collect hC).seq
    intro outcome
    apply (keeps_ask _).seq
    intro lost
    split_ifs
    · exact keeps_throw _
    · apply Keeps.handled
      · apply keeps_persistScan.seq
        intro _
        exact keeps_pure _
      · intro e
        split_ifs
        · apply Keeps.handled
          · apply (keeps_ask _).seq
            intro finishedAt
            apply keeps_persistScan.seq
            intro _
            exact keeps_pure _
          · intro e
            split_ifs
            · exact keeps_pure _
            · exact keeps_throw _
        · exact keeps_throw _

theorem keeps_testTarget {target : Option Device} :
    Keeps (Released C) (testTarget env target) (Released C) := by
  unfold testTarget
  split
  · exact keeps_pure _
  · split
    · exact keeps_pure _
    · apply Keeps.handled
      · apply (keeps_remote (hC _)).seq
        intro _
        exact keeps_pure _
      · intro e
        exact keeps_pure _

theorem keeps_testRow {rowId : ℕ} : Keeps (Released C) (testRow env rowId) (Released C) := by
  unfold testRow
  apply Keeps.handled
  · apply keeps_loadImportTarget.seq
    intro target
    apply (keeps_testTarget hC).seq
    intro outcome
    apply (keeps_ask _).seq
    intro lost
    split_ifs
    · exact keeps_throw _
    · apply keeps_saveRowResult.seq
      intro completed
      split_ifs
      · apply keeps_runTransaction
        intro session
        exact keeps_work
      · exact keeps_pure _
  · intro e
    split
    · exact keeps_pure _
    · exact keeps_pure _
    · exact keeps_pure _
    · exact keeps_saveInternalFailure

end

/-! ## The exception -/

/-- `update_device` loads the device and then tests its changed connection. -/
def Entry.TestsLoadedDevice (env : Surroundings) (operations : ℕ) : Entry → Prop
  | .updateDevice deviceId p =>
    p.accepted = true ∧ p.changesConnection = true ∧ p.osType ≠ some none ∧
      env.fault operations = none ∧
      ∃ device, (env.view operations).devices.find? (·.id = deviceId) = some device ∧
        (p.password.join.getD "" ≠ "" ∨ (env.decrypt device.encryptedPassword).isSome = true)
  | _ => False

theorem select_of_fault {α : Type} {session : ℕ} {f : Timestamp → Database → α}
    {t : Thread RemoteCall} {failure : Failure String}
    (h : env.fault t.operations = some failure) :
    env.select session f t = (.error (.database failure),
      { t.touch session .statement with operations := t.operations + 1 }) := by
  have hperform : env.perform session .statement t = (.error (.database failure),
      { t.touch session .statement with operations := t.operations + 1 }) := by
    simp [Surroundings.perform, Sessions.perform, h]
  unfold Surroundings.select
  rw [bind_of_ok (rfl : ask _ t = _), bind_of_error hperform]

theorem select_run {α : Type} {session : ℕ} {f : Timestamp → Database → α}
    {t : Thread RemoteCall} (h : env.fault t.operations = none) :
    env.select session f t = (.ok (f (env.clock t.operations) (env.view t.operations)),
      { t.touch session .statement with operations := t.operations + 1 }) := by
  have hperform : env.perform session .statement t =
      (.ok (), { t.touch session .statement with operations := t.operations + 1 }) := by
    simp [Surroundings.perform, Sessions.perform, h]
  unfold Surroundings.select
  rw [bind_of_ok (rfl : ask _ t = _), bind_of_ok hperform]
  rfl

/-- The test is a call, made with the sessions as they stand. -/
theorem keeps_requestTest_call {osType : OSType} {host : Option String} {port : Option ℕ}
    {username : Option String} {password : String} (t : Thread RemoteCall) :
    Keeps (· = t) (requestTest env (some osType) host port username password)
      (fun t' => ∃ call, t' = { t with calls := t.calls ++ [(call, t.sessions)] }) := by
  unfold requestTest testConnection
  apply Keeps.tryCatch (Q := fun t' => ∃ call, t' = { t with
    calls := t.calls ++ [(call, t.sessions)] })
  · constructor
    rintro t' rfl
    exact ⟨_, rfl⟩
  · intro e
    split <;> exact keeps_throw _
  · intro t' ht'
    exact ht'

/-- A changed connection is tested while the session of the request holds its connection. -/
theorem keeps_testChanged_call {p : DeviceUpdate} {device : Device} {session : ℕ}
    {t : Thread RemoteCall} (hchanges : p.changesConnection = true) (hos : p.osType ≠ some none)
    (hpassword : p.password.join.getD "" ≠ "" ∨
      (env.decrypt device.encryptedPassword).isSome = true)
    (ht : Within (fun _ => True) session t) (hheld : ∃ s ∈ t.sessions, s.connection = true) :
    Keeps (· = t) (testChanged env p device)
      (Within (fun calls => ¬NothingHeld calls) session) := by
  obtain ⟨effective, heffective⟩ : ∃ effective, (if p.password.join.getD "" ≠ "" then
      some (p.password.join.getD "") else env.decrypt device.encryptedPassword) = some effective := by
    by_cases hset : p.password.join.getD "" ≠ ""
    · exact ⟨_, if_pos hset⟩
    · rw [if_neg hset]
      exact Option.isSome_iff_exists.mp (hpassword.resolve_left hset)
  obtain ⟨osType, hosType⟩ : ∃ osType, p.osType.getD (some device.osType) = some osType := by
    cases hfield : p.osType with
    | none => exact ⟨device.osType, rfl⟩
    | some inner =>
      cases inner with
      | none => exact absurd hfield hos
      | some osType => exact ⟨osType, rfl⟩
  have hcall : ∀ t', (∃ call : RemoteCall, t' = { t with calls := t.calls ++ [(call, t.sessions)] }) →
      Within (fun calls => ¬NothingHeld calls) session t' := by
    rintro _ ⟨call, rfl⟩
    refine ⟨ht.others, ?_⟩
    intro hnothing
    obtain ⟨s, hs, hconnection⟩ := hheld
    have hidle := ((nothingHeld_append.mp hnothing).2 s hs).1
    rw [hconnection] at hidle
    cases hidle
  unfold testChanged
  dsimp only
  rw [heffective]
  dsimp only
  rw [if_pos hchanges, hosType]
  apply (keeps_requestTest_call t).bind
  · intro _
    apply (keeps_pure _).mono
    · intro t' ht'
      exact hcall t' ht'
    · intro t' ht'
      exact ht'
  · exact hcall

/-- Otherwise nothing is called. -/
theorem keeps_testChanged {P : Thread RemoteCall → Prop} {p : DeviceUpdate} {device : Device}
    (h : p.changesConnection = true → p.osType ≠ some none →
      ¬(p.password.join.getD "" ≠ "" ∨ (env.decrypt device.encryptedPassword).isSome = true)) :
    Keeps P (testChanged env p device) P := by
  unfold testChanged
  dsimp only
  split
  · exact keeps_throw _
  · rename_i effective heffective
    split_ifs with hchanges
    · have hpassword : p.password.join.getD "" ≠ "" ∨
          (env.decrypt device.encryptedPassword).isSome = true := by
        split_ifs at heffective with hset
        · exact Or.inl hset
        · exact Or.inr (Option.isSome_iff_exists.mpr ⟨effective, heffective⟩)
      have hos : p.osType = some none := by
        by_contra hos
        exact h hchanges hos hpassword
      rw [hos]
      -- there is no collector for a null operating system
      apply Keeps.seq
      · apply Keeps.handled
        · exact keeps_throw _
        · intro e
          split <;> exact keeps_throw _
      · intro _
        exact keeps_pure _
    · exact keeps_pure _

section
variable {C : List (RemoteCall × List SessionState) → Prop} {t : Thread RemoteCall}

/-- The thread after the first statement of a session that it has just opened. -/
def begun (t : Thread RemoteCall) : Thread RemoteCall :=
  { (Thread.touch { t with sessions := t.sessions ++ [.idle] } t.sessions.length .statement) with
    operations := t.operations + 1 }

theorem begun_within (h : Released C t) : Within C t.sessions.length (begun t) := by
  have hopened := (keeps_openSession (ε := Raised)).after t h
  have htouched := (hopened.within t.sessions.length).touch .statement
  exact ⟨htouched.others, htouched.calls⟩

theorem begun_held (t : Thread RemoteCall) : ∃ s ∈ (begun t).sessions, s.connection = true := by
  refine ⟨{ connection := true, transaction := true }, ?_, rfl⟩
  have hget : (begun t).sessions[t.sessions.length]? =
      some { connection := true, transaction := true } := by
    unfold begun Thread.touch
    rw [List.getElem?_modify_eq, List.getElem?_concat_length]
    rfl
  exact List.mem_of_getElem? hget

/-- What `update_device` makes of the device that it finds. -/
theorem updateDevice_run {deviceId : ℕ} {p : DeviceUpdate} (haccepted : p.accepted = true)
    (hfault : env.fault t.operations = none) :
    (updateDevice env deviceId p t).2 =
      ((match (env.view t.operations).devices.find? (·.id = deviceId) with
        | none => throw (.api (.http 404 "设备不存在"))
        | some device => do
          testChanged env p device
          writeUpdate env t.sessions.length p : Program RemoteCall Raised Unit)
        (begun t)).2.touch t.sessions.length .close := by
  have hselect := @select_run env _ t.sessions.length
    (fun _ view => view.devices.find? (·.id = deviceId))
    { t with sessions := t.sessions ++ [.idle] } hfault
  unfold updateDevice
  rw [haccepted]
  change (updateInSession env t.sessions.length deviceId p
    { t with sessions := t.sessions ++ [.idle] }).2.touch t.sessions.length .close = _
  unfold updateInSession
  rw [bind_of_ok hselect]
  rfl

theorem updateDevice_quiet (h : Released C t) {deviceId : ℕ} {p : DeviceUpdate}
    (hnot : ¬(Entry.updateDevice deviceId p).TestsLoadedDevice env t.operations) :
    Released C (updateDevice env deviceId p t).2 := by
  by_cases haccepted : p.accepted = true
  · cases hfault : env.fault t.operations with
    | none =>
      rw [updateDevice_run haccepted hfault]
      have hbegun := begun_within h
      cases hfind : (env.view t.operations).devices.find? (·.id = deviceId) with
      | none => exact hbegun.release (by decide)
      | some device =>
        have htest : ∀ P : Thread RemoteCall → Prop, Keeps P (testChanged env p device) P := by
          intro P
          apply keeps_testChanged
          intro hchanges hos hpassword
          exact hnot ⟨haccepted, hchanges, hos, hfault, device, hfind, hpassword⟩
        have hrest := (htest (Within C t.sessions.length)).seq fun _ =>
          @keeps_writeUpdate env C _ p
        exact (hrest.after _ hbegun).release (by decide)
    | some failure =>
      have hselect := @select_of_fault env _ t.sessions.length
        (fun _ view => view.devices.find? (·.id = deviceId))
        { t with sessions := t.sessions ++ [.idle] } failure hfault
      unfold updateDevice
      rw [haccepted]
      change Released C ((updateInSession env t.sessions.length deviceId p
        { t with sessions := t.sessions ++ [.idle] }).2.touch t.sessions.length .close)
      unfold updateInSession
      rw [bind_of_error hselect]
      exact (begun_within h).release (by decide)
  · unfold updateDevice
    rw [Bool.not_eq_true] at haccepted
    rw [haccepted]
    exact h

theorem updateDevice_holding (h : Released (fun _ => True) t) {deviceId : ℕ} {p : DeviceUpdate}
    (htests : (Entry.updateDevice deviceId p).TestsLoadedDevice env t.operations) :
    Released (fun calls => ¬NothingHeld calls) (updateDevice env deviceId p t).2 := by
  obtain ⟨haccepted, hchanges, hos, hfault, device, hfind, hpassword⟩ := htests
  rw [updateDevice_run haccepted hfault, hfind]
  have htest := keeps_testChanged_call hchanges hos hpassword (begun_within h) (begun_held t)
  apply Within.release _ (by decide)
  have hrest := htest.bind (fun _ => @keeps_writeUpdate env _ _ p) fun _ ht => ht
  exact hrest.after _ rfl

end

/-! ## Every entry point -/

theorem Entry.program_quiet {C : List (RemoteCall × List SessionState) → Prop}
    (hC : ∀ call calls sessions, C calls → (∀ s ∈ sessions, s = .idle) →
      C (calls ++ [(call, sessions)])) {t : Thread RemoteCall} (h : Released C t) {entry : Entry}
    (hnot : ¬entry.TestsLoadedDevice env t.operations) :
    Released C (entry.program env t).2 := by
  cases entry with
  | testDevice payload => exact (keeps_testDevice hC).after t h
  | createDevice payload => exact (keeps_createDevice hC).after t h
  | updateDevice deviceId payload => exact updateDevice_quiet h hnot
  | executeTask taskId => exact (keeps_executeTask hC).after t h
  | testRow rowId => exact (keeps_testRow hC).after t h

/-- An entry point leaves every session released, and calls with nothing held exactly when it
does not test a device that it has loaded. -/
theorem Entry.program_spec {t : Thread RemoteCall} (h : Released (fun _ => True) t)
    (entry : Entry) : Released (fun _ => True) (entry.program env t).2 ∧
      (NothingHeld (entry.program env t).2.calls ↔
        NothingHeld t.calls ∧ ¬entry.TestsLoadedDevice env t.operations) := by
  by_cases htests : entry.TestsLoadedDevice env t.operations
  · have hholding : Released (fun calls => ¬NothingHeld calls) (entry.program env t).2 := by
      cases entry with
      | updateDevice deviceId payload => exact updateDevice_holding h htests
      | _ => exact htests.elim
    constructor
    · exact ⟨hholding.idle, trivial⟩
    · constructor
      · intro hnothing
        exact absurd hnothing hholding.calls
      · rintro ⟨-, hnot⟩
        exact absurd htests hnot
  · constructor
    · exact Entry.program_quiet (fun _ _ _ _ _ => trivial) h htests
    · by_cases hcalls : NothingHeld t.calls
      · have hquiet : Released NothingHeld (entry.program env t).2 :=
          Entry.program_quiet (fun _ _ _ hcalls hidle => hcalls.append hidle) ⟨h.idle, hcalls⟩ htests
        exact iff_of_true hquiet.calls ⟨hcalls, htests⟩
      · have hquiet : Released (fun calls => ¬NothingHeld calls) (entry.program env t).2 := by
          apply Entry.program_quiet _ ⟨h.idle, hcalls⟩ htests
          intro call calls sessions hbad _ hnothing
          exact hbad (nothingHeld_append.mp hnothing).1
        exact iff_of_false hquiet.calls fun hboth => hcalls hboth.1

theorem serve_spec {t : Thread RemoteCall} (h : Released (fun _ => True) t)
    (entries : List Entry) : NothingHeld (serve env entries t).calls ↔
      NothingHeld t.calls ∧ ∀ before entry after, entries = before ++ entry :: after →
        ¬entry.TestsLoadedDevice env (serve env before t).operations := by
  induction entries generalizing t with
  | nil => simp [serve]
  | cons first rest ih =>
    have hfirst := @Entry.program_spec env t h first
    have hrest := ih hfirst.1
    have hserve : ∀ entries, serve env (first :: entries) t =
        serve env entries (first.program env t).2 := fun _ => rfl
    rw [hserve, hrest, hfirst.2, and_assoc]
    apply and_congr_right
    intro _
    constructor
    · rintro ⟨hnot, hall⟩ before entry after hsplit
      cases before with
      | nil =>
        obtain ⟨rfl, -⟩ := List.cons.inj hsplit
        exact hnot
      | cons b before =>
        obtain ⟨rfl, htail⟩ := List.cons.inj hsplit
        exact hall before entry after htail
    · intro hall
      constructor
      · exact hall [] first rest rfl
      · intro before entry after hsplit
        exact hall (first :: before) entry after (by rw [hsplit, List.cons_append])

/-- No connection is held across the network, except where `update_device` tests the changed
connection of a device that it has loaded. -/
theorem nothing_held_across_network_iff (env : Surroundings) (entries : List Entry) :
    NothingHeld (serve env entries {}).calls ↔
      ∀ before entry after, entries = before ++ entry :: after →
        ¬entry.TestsLoadedDevice env (serve env before {}).operations := by
  have hempty : Released (fun _ => True) ({} : Thread RemoteCall) := by
    constructor
    · intro s hs
      cases hs
    · trivial
  rw [serve_spec hempty]
  apply and_iff_right
  intro call hcall
  cases hcall

/-- A new host is tested while the session that loaded the device is in its transaction. -/
theorem changed_host_is_tested_in_transaction :
    let env : Surroundings := {
      workerId := "w"
      globalLimit := 20
      leaseSeconds := 90
      retries := 2
      casing := ⟨id, id⟩
      decrypt := some
      reply := fun _ => .ok {}
      fault := fun _ => none
      view := fun _ => { devices := [{ id := 1, name := "a", host := "10.0.0.1", username := "root" }] }
      clock := fun _ => 0
      statements := fun _ => 1
      deviceLocked := fun _ => false
      leaseLost := fun _ => false }
    let p : DeviceUpdate := { host := some (some "10.0.0.2") }
    ¬NothingHeld (serve env [.updateDevice 1 p] {}).calls := by
  decide

end ConnectionTopology.RemoteCalls
