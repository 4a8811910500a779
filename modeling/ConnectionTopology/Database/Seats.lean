import ConnectionTopology.Library.Leases
import ConnectionTopology.Models

/-!
# Tasks in their places

Of a task only its place in the queue matters here: whose it is, whether it is active and who has a
lease on it. The places of all tasks say what job each device has.
-/
namespace ConnectionTopology

open Leases

/-- What of a task is about its place in the queue. -/
structure Seat where
  id : ℕ
  deviceId : ℕ
  status : ScanTaskStatus
  workerId : Option String
  leaseExpiresAt : Option Timestamp
  heartbeatAt : Option Timestamp
  deriving DecidableEq, Repr

def ScanTask.seat (t : ScanTask) : Seat where
  id := t.id
  deviceId := t.deviceId
  status := t.status
  workerId := t.workerId
  leaseExpiresAt := t.leaseExpiresAt
  heartbeatAt := t.heartbeatAt

def Database.seats (db : Database) : List Seat := db.scanTasks.map ScanTask.seat

/-- An active task of the device. -/
def Seat.serves (deviceId : ℕ) (s : Seat) : Bool := s.deviceId = deviceId && s.status.isActive

def Seat.job (s : Seat) : Job ℕ String Timestamp where
  ticket := s.id
  lease := if s.status = .running then
      s.workerId.bind fun worker => s.leaseExpiresAt.map fun due => (worker, due)
    else none

abbrev JobAct := Act ℕ String Timestamp

def jobOf (seats : List Seat) (deviceId : ℕ) : Option (Job ℕ String Timestamp) :=
  (seats.find? (·.serves deviceId)).map Seat.job

/-- The job of each device. -/
def Database.jobs (db : Database) : ℕ → Option (Job ℕ String Timestamp) := jobOf db.seats

/-- A running task has a worker, a lease and a heartbeat, and no other task has any of them. -/
def Seat.LeaseOk (s : Seat) : Prop :=
  if s.status = .running then
    s.workerId.isSome ∧ s.leaseExpiresAt.isSome ∧ s.heartbeatAt.isSome
  else s.workerId = none ∧ s.leaseExpiresAt = none ∧ s.heartbeatAt = none

/-- Keys are distinct, a device has one active task, and leases are complete. -/
structure Seated (seats : List Seat) : Prop where
  ids : (seats.map (·.id)).Nodup
  unique : ∀ s ∈ seats, ∀ u ∈ seats, s.status.isActive = true → u.status.isActive = true →
    s.deviceId = u.deviceId → s = u
  leased : ∀ s ∈ seats, s.LeaseOk

/-- The moves that each task makes, in the order of the tasks. -/
def movesOf (seats : List Seat) (acts : Seat → List JobAct) : List (ℕ × JobAct) :=
  seats.flatMap fun s => (acts s).map fun act => (s.deviceId, act)

variable {db db' : Database} {b : Backend} {seats new : List Seat}

/-! ## Rows in their places -/

theorem Seat.job_pending {s : Seat} (h : s.status = .pending) : s.job = { ticket := s.id } := by
  simp [Seat.job, h]

theorem Seat.job_running {s : Seat} {worker : String} {due : Timestamp}
    (hstatus : s.status = .running) (hworker : s.workerId = some worker)
    (hdue : s.leaseExpiresAt = some due) :
    s.job = { ticket := s.id, lease := some (worker, due) } := by
  simp [Seat.job, hstatus, hworker, hdue]

theorem Seat.serves_iff {deviceId : ℕ} {s : Seat} :
    s.serves deviceId = true ↔ s.deviceId = deviceId ∧ s.status.isActive = true := by
  simp [Seat.serves]

/-- The one active task of its device is found. -/
theorem Seated.find? (h : Seated seats) {s : Seat} (hs : s ∈ seats)
    (hactive : s.status.isActive = true) :
    seats.find? (·.serves s.deviceId) = some s := by
  cases hfind : seats.find? (·.serves s.deviceId) with
  | none =>
    have hnone := List.find?_eq_none.mp hfind s hs
    exact absurd (Seat.serves_iff.mpr ⟨rfl, hactive⟩) hnone
  | some u =>
    obtain ⟨hdevice, hserves⟩ := Seat.serves_iff.mp (List.find?_some hfind)
    rw [h.unique u (List.mem_of_find?_eq_some hfind) s hs hserves hactive hdevice]

theorem Seated.jobOf (h : Seated seats) {s : Seat} (hs : s ∈ seats)
    (hactive : s.status.isActive = true) : jobOf seats s.deviceId = some s.job := by
  unfold ConnectionTopology.jobOf
  rw [h.find? hs hactive]
  rfl

/-- What may happen to the tasks one by one: none comes to life again. -/
structure KeepsSeats (seats : List Seat) (g : Seat → Seat) : Prop where
  id : ∀ s, (g s).id = s.id
  device : ∀ s, (g s).deviceId = s.deviceId
  active : ∀ s ∈ seats, (g s).status.isActive = true → s.status.isActive = true
  leased : ∀ s ∈ seats, s.LeaseOk → (g s).LeaseOk

theorem Seated.map (h : Seated seats) {g : Seat → Seat} (hg : KeepsSeats seats g) :
    Seated (seats.map g) := by
  constructor
  · rw [List.map_map]
    have hids : (fun s : Seat => s.id) ∘ g = fun s => s.id := funext hg.id
    rw [hids]
    exact h.ids
  · intro s' hs' u' hu' hs'active hu'active hdevice
    obtain ⟨s, hs, rfl⟩ := List.mem_map.mp hs'
    obtain ⟨u, hu, rfl⟩ := List.mem_map.mp hu'
    rw [hg.device, hg.device] at hdevice
    rw [h.unique s hs u hu (hg.active s hs hs'active) (hg.active u hu hu'active) hdevice]
  · intro s' hs'
    obtain ⟨s, hs, rfl⟩ := List.mem_map.mp hs'
    exact hg.leased s hs (h.leased s hs)

/-- The job of a device after its tasks have been rewritten. -/
theorem Seated.jobOf_map (h : Seated seats) {g : Seat → Seat} (hg : KeepsSeats seats g)
    (deviceId : ℕ) : ConnectionTopology.jobOf (seats.map g) deviceId =
      (seats.find? (·.serves deviceId)).bind fun s =>
        if (g s).status.isActive then some (g s).job else none := by
  unfold ConnectionTopology.jobOf
  rw [List.find?_map]
  cases hfind : seats.find? (·.serves deviceId) with
  | none =>
    have hnone : seats.find? ((·.serves deviceId) ∘ g) = none := by
      rw [List.find?_eq_none] at hfind ⊢
      intro s hs hserves
      obtain ⟨hdevice, hactive⟩ := Seat.serves_iff.mp hserves
      rw [hg.device] at hdevice
      exact hfind s hs (Seat.serves_iff.mpr ⟨hdevice, hg.active s hs hactive⟩)
    rw [hnone]
    rfl
  | some s =>
    have hmem := List.mem_of_find?_eq_some hfind
    obtain ⟨hdevice, hactive⟩ := Seat.serves_iff.mp (List.find?_some hfind)
    rw [Option.bind_some]
    split_ifs with hstays
    · have hfound : seats.find? ((·.serves deviceId) ∘ g) = some s := by
        cases hother : seats.find? ((·.serves deviceId) ∘ g) with
        | none =>
          have hserves : (g s).serves deviceId = true :=
            Seat.serves_iff.mpr ⟨(hg.device s).trans hdevice, hstays⟩
          exact absurd hserves (List.find?_eq_none.mp hother s hmem)
        | some u =>
          have hu := List.mem_of_find?_eq_some hother
          have huserves : (g u).serves deviceId = true := by
            have hfound := List.find?_some hother
            exact hfound
          obtain ⟨hudevice, huactive⟩ := Seat.serves_iff.mp huserves
          rw [hg.device] at hudevice
          rw [h.unique u hu s hmem (hg.active u hu huactive) hactive (hudevice.trans hdevice.symm)]
      rw [hfound]
      rfl
    · have hnone : seats.find? ((·.serves deviceId) ∘ g) = none := by
        rw [List.find?_eq_none]
        intro u hu hserves
        obtain ⟨hudevice, huactive⟩ := Seat.serves_iff.mp hserves
        rw [hg.device] at hudevice
        have hsame := h.unique u hu s hmem (hg.active u hu huactive) hactive
          (hudevice.trans hdevice.symm)
        exact hstays (hsame ▸ huactive)
      rw [hnone]
      rfl

/-- Of the moves of all tasks, those of one device are the moves of its active task. -/
theorem Seated.actionsOf (h : Seated seats) {acts : Seat → List JobAct}
    (hidle : ∀ s ∈ seats, s.status.isActive = false → acts s = []) (deviceId : ℕ) :
    Machine.actionsOf deviceId (movesOf seats acts) =
      (seats.find? (·.serves deviceId)).elim [] acts := by
  obtain ⟨hids, hunique, -⟩ := h
  unfold movesOf
  induction seats with
  | nil => rfl
  | cons s rest ih =>
    rw [List.map_cons, List.nodup_cons] at hids
    have ih := ih (fun u hu => hidle u (List.mem_cons_of_mem _ hu)) hids.2 fun u hu v hv =>
      hunique u (List.mem_cons_of_mem _ hu) v (List.mem_cons_of_mem _ hv)
    rw [List.flatMap_cons, Machine.actionsOf_append, ih, List.find?_cons]
    have hown : Machine.actionsOf deviceId ((acts s).map fun act => (s.deviceId, act)) =
        if s.deviceId = deviceId then acts s else [] := by
      unfold Machine.actionsOf
      rw [List.filter_map, List.map_map]
      split_ifs with hdevice
      · rw [List.filter_eq_self.mpr]
        · exact List.map_id _
        · exact fun _ _ => decide_eq_true hdevice
      · rw [List.filter_eq_nil_iff.mpr]
        · rfl
        · exact fun _ _ => by simpa using hdevice
    rw [hown]
    cases hserves : s.serves deviceId with
    | false =>
      have hnone : (if s.deviceId = deviceId then acts s else []) = [] := by
        split_ifs with hdevice
        · apply hidle s List.mem_cons_self
          simpa [Seat.serves, hdevice] using hserves
        · rfl
      rw [hnone]
      rfl
    | true =>
      obtain ⟨hdevice, hactive⟩ := Seat.serves_iff.mp hserves
      have hrest : rest.find? (·.serves deviceId) = none := by
        rw [List.find?_eq_none]
        intro u hu huserves
        obtain ⟨hudevice, huactive⟩ := Seat.serves_iff.mp huserves
        have hsame := hunique u (List.mem_cons_of_mem s hu) s List.mem_cons_self huactive hactive
          (hudevice.trans hdevice.symm)
        exact hids.1 (hsame ▸ List.mem_map_of_mem hu)
      rw [if_pos hdevice, hrest]
      exact List.append_nil _


/-- Rewriting the tasks one by one is what the moves of each do to its job. -/
theorem Seated.run_map (h : Seated seats) {g : Seat → Seat} (hg : KeepsSeats seats g)
    {acts : Seat → List JobAct} (hidle : ∀ s ∈ seats, s.status.isActive = false → acts s = [])
    (hacts : ∀ s ∈ seats, s.status.isActive = true → Machine.run step (some s.job) (acts s) =
      some (if (g s).status.isActive then some (g s).job else none)) :
    Machine.run (Machine.each step) (ConnectionTopology.jobOf seats) (movesOf seats acts) =
      some (ConnectionTopology.jobOf (seats.map g)) := by
  rw [Machine.run_each_iff]
  intro deviceId
  rw [h.actionsOf hidle, h.jobOf_map hg]
  unfold ConnectionTopology.jobOf
  cases hfind : seats.find? (·.serves deviceId) with
  | none => rfl
  | some s =>
    have hserves : s.serves deviceId = true := by
      have hfound := List.find?_some hfind
      exact hfound
    exact hacts s (List.mem_of_find?_eq_some hfind) (Seat.serves_iff.mp hserves).2

/-- A task that can be inserted: it waits, and its device has no job. -/
structure Fits (seats : List Seat) (s : Seat) : Prop where
  fresh : s.id ∉ seats.map (·.id)
  idle : jobOf seats s.deviceId = none
  waits : s.status = .pending ∧ s.LeaseOk

theorem jobOf_eq_none {deviceId : ℕ} : jobOf seats deviceId = none ↔
    ∀ s ∈ seats, s.deviceId = deviceId → s.status.isActive = false := by
  simp [jobOf, List.find?_eq_none, Seat.serves]

theorem Seated.insert (h : Seated seats) {s : Seat} (hs : Fits seats s) :
    Seated (seats ++ [s]) ∧ Machine.each step (ConnectionTopology.jobOf seats)
      (s.deviceId, .submit s.id) = some (ConnectionTopology.jobOf (seats ++ [s])) := by
  have hactive : s.status.isActive = true := by
    rw [hs.waits.1]
    rfl
  have hidle : ∀ u ∈ seats, u.status.isActive = true → u.deviceId ≠ s.deviceId := by
    intro u hu huactive hdevice
    rw [jobOf_eq_none.mp hs.idle u hu hdevice] at huactive
    cases huactive
  constructor
  · constructor
    · rw [List.map_append, List.nodup_append']
      refine ⟨h.ids, List.nodup_singleton _, ?_⟩
      rw [List.map_cons, List.map_nil, List.disjoint_singleton]
      exact hs.fresh
    · intro u hu v hv huactive hvactive hdevice
      rcases List.mem_append.mp hu with hu | hu <;> rcases List.mem_append.mp hv with hv | hv
      · exact h.unique u hu v hv huactive hvactive hdevice
      · rw [List.mem_singleton.mp hv] at hdevice
        exact absurd hdevice (hidle u hu huactive)
      · rw [List.mem_singleton.mp hu] at hdevice
        exact absurd hdevice.symm (hidle v hv hvactive)
      · rw [List.mem_singleton.mp hu, List.mem_singleton.mp hv]
    · intro u hu
      rcases List.mem_append.mp hu with hu | hu
      · exact h.leased u hu
      · rw [List.mem_singleton.mp hu]
        exact hs.waits.2
  · have hsubmit : step (ConnectionTopology.jobOf seats s.deviceId) (.submit s.id) =
        some (some s.job) := by
      rw [hs.idle, Seat.job_pending hs.waits.1]
      rfl
    unfold Machine.each
    dsimp only
    rw [hsubmit, Option.map_some, Option.some.injEq]
    funext deviceId
    by_cases hdevice : deviceId = s.deviceId
    · subst hdevice
      have hnone : seats.find? (·.serves s.deviceId) = none := Option.map_eq_none_iff.mp hs.idle
      have hserves : s.serves s.deviceId = true := Seat.serves_iff.mpr ⟨rfl, hactive⟩
      rw [Function.update_self]
      unfold ConnectionTopology.jobOf
      rw [List.find?_append, hnone, List.find?_cons_of_pos hserves]
      rfl
    · have hserves : ¬s.serves deviceId = true := by
        rw [Seat.serves_iff]
        exact fun hown => hdevice hown.1.symm
      rw [Function.update_of_ne hdevice]
      unfold ConnectionTopology.jobOf
      rw [List.find?_append, List.find?_cons_of_neg hserves, List.find?_nil, Option.or_none]

/-- Tasks that can be inserted one after the other. -/
def Joins : List Seat → List Seat → Prop
  | _, [] => True
  | seats, s :: rest => Fits seats s ∧ Joins (seats ++ [s]) rest

theorem Joins.append {new' : List Seat} (h : Joins seats new) (h' : Joins (seats ++ new) new') :
    Joins seats (new ++ new') := by
  induction new generalizing seats with
  | nil => rwa [List.append_nil] at h'
  | cons s rest ih =>
    refine ⟨h.1, ih h.2 ?_⟩
    rwa [List.append_assoc]

/-- The moves of the tasks that are new. -/
def submissions (new : List Seat) : List (ℕ × JobAct) :=
  new.map fun s => (s.deviceId, .submit s.id)

theorem Seated.run_append (h : Seated seats) (hnew : Joins seats new) : Seated (seats ++ new) ∧
    Machine.run (Machine.each step) (ConnectionTopology.jobOf seats) (submissions new) =
      some (ConnectionTopology.jobOf (seats ++ new)) := by
  induction new generalizing seats with
  | nil =>
    rw [List.append_nil]
    exact ⟨h, rfl⟩
  | cons s rest ih =>
    obtain ⟨hseated, hfirst⟩ := h.insert hnew.1
    obtain ⟨hall, hlater⟩ := ih hseated hnew.2
    rw [List.append_assoc, List.singleton_append] at hall hlater
    refine ⟨hall, ?_⟩
    unfold submissions at hlater ⊢
    rw [List.map_cons, Machine.run, hfirst]
    exact hlater

end ConnectionTopology
