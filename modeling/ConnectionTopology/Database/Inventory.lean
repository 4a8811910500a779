import ConnectionTopology.Database.Frames
import ConnectionTopology.Clusters.InternalNetworks
import ConnectionTopology.Imports.RowAccounting

/-!
# The inventory stays well formed

Devices and clusters are written by the requests and by the rows of an import, which check their
input in different places. What is stored passes all of these checks again.
-/
namespace ConnectionTopology

open ForeignKeys

/-- A stored device is within the bounds of the schema. Collection is enabled exactly for a device
with a password. -/
structure Device.Valid (encrypt : String → String) (d : Device) : Prop where
  name : lengthBetween 1 100 d.name = true
  host : lengthBetween 1 255 d.host = true
  port : between 1 65535 d.port = true
  username : lengthBetween 1 255 d.username = true
  interval : between 1 10080 d.scanIntervalMinutes = true
  retention : d.historyRetentionDays.all (between 1 3650) = true
  password : ∃ password, d.encryptedPassword = encrypt password ∧ password.length ≤ 1024 ∧
    (d.collectionEnabled = true ↔ password ≠ "")

/-- What `clusters.py` normalizes is stored in its normal form. -/
structure Cluster.Valid (c : Cluster) : Prop where
  name : normalizeClusterName c.name = .ok c.name
  description : ∀ text, c.description = some text →
    text ≠ "" ∧ Text.strip text = text ∧ text.length ≤ 500
  retention : c.historyRetentionDays.all (between 1 3650) = true
  interval : between 1 10080 c.scanIntervalMinutes = true
  networks : ∃ sorted, normalizeInternalNetworks c.internalNetworks = .ok sorted ∧
    c.internalNetworks.Perm sorted

def Device.identity (d : Device) : String × ℕ × String := (d.host, d.port, d.username)

/-- Rows within their bounds, and no two that the application takes for the same. -/
structure Inventory (b : Backend) (db : Database) : Prop where
  devices : ∀ d ∈ db.devices, d.Valid b.encrypt
  clusters : ∀ c ∈ db.clusters, c.Valid
  identities : (db.devices.map Device.identity).Nodup
  names : (db.clusters.map (·.name)).Nodup
  /-- Where the database and Python lower names alike, names differ in more than case. -/
  folded : (∀ text, b.dbLower text = b.lower text) →
    (db.clusters.map fun c => b.dbLower c.name).Nodup

variable {db db' : Database} {b : Backend}

theorem Device.sameIdentity_iff {a d : Device} :
    a.sameIdentity d = true ↔ a.identity = d.identity := by
  simp [Device.sameIdentity, Device.identity, and_assoc]

/-! ## Names and descriptions -/

/-- A normalized name is normalized to itself. -/
theorem normalizeClusterName_stable {name normalized : String}
    (h : normalizeClusterName name = .ok normalized) :
    normalizeClusterName normalized = .ok normalized := by
  unfold normalizeClusterName at h ⊢
  dsimp only at h ⊢
  split_ifs at h with hempty hlong
  cases h
  rw [Text.strip_idem, if_neg hempty, if_neg hlong]

theorem cleanDescription_valid {p : ClusterPayload} (haccepted : p.accepted = true) {text : String}
    (h : p.cleanDescription = some text) :
    text ≠ "" ∧ Text.strip text = text ∧ text.length ≤ 500 := by
  unfold ClusterPayload.cleanDescription at h
  split at h
  · cases h
  · rename_i written hwritten
    split_ifs at h with hempty
    cases h
    refine ⟨hempty, Text.strip_idem written, (Text.length_strip_le written).trans ?_⟩
    simp only [ClusterPayload.accepted, hwritten, Option.all_some, lengthBetween,
      Bool.and_eq_true, decide_eq_true_eq] at haccepted
    exact haccepted.1.1.2.2

/-! ## Networks -/

theorem normalizeInternalNetworks_nil : normalizeInternalNetworks [] = .ok [] := by decide

/-- The replaced rows of a cluster are the normal form of what was entered, in another order. -/
theorem replacedNetworks_valid {old values normalized : List String} (hold : old.Nodup)
    (h : normalizeInternalNetworks values = .ok normalized) :
    ∃ sorted, normalizeInternalNetworks (replacedNetworks old normalized) = .ok sorted ∧
      (replacedNetworks old normalized).Perm sorted := by
  have hform : NormalForm values normalized := by
    rcases normalizeInternalNetworks_spec values with ⟨hlength, hnormal, hok⟩ | ⟨-, message, herror⟩
    · rw [h] at hok
      cases hok
      exact hnormal.normalForm hlength
    · rw [h] at herror
      cases herror
  have hperm : (replacedNetworks old normalized).Perm normalized := by
    rw [List.perm_ext_iff_of_nodup (nodup_replacedNetworks hold hform.nodup) hform.nodup]
    exact fun _ => mem_replacedNetworks
  exact ⟨normalized, (normalizeInternalNetworks_perm hperm normalized).mpr hform.stable, hperm⟩

theorem Cluster.Valid.nodup {c : Cluster} (h : c.Valid) : c.internalNetworks.Nodup := by
  obtain ⟨sorted, hok, hperm⟩ := h.networks
  rcases normalizeInternalNetworks_spec c.internalNetworks with
    ⟨hlength, hnormal, hspec⟩ | ⟨-, message, herror⟩
  · rw [hok] at hspec
    cases hspec
    exact hperm.nodup_iff.mpr (hnormal.normalForm hlength).nodup
  · rw [hok] at herror
    cases herror

/-! ## Rows -/

/-- A device without what its last scan has left. -/
def Device.settings (d : Device) : Device := { d with lastScanStatus := none, lastScanAt := none }

theorem Inventory.congr (h : Inventory b db) (hclusters : db'.clusters = db.clusters)
    (hdevices : db'.devices.map Device.settings = db.devices.map Device.settings) :
    Inventory b db' where
  devices := by
    intro d hd
    have hmem : d.settings ∈ db.devices.map Device.settings := hdevices ▸ List.mem_map_of_mem hd
    obtain ⟨d₀, hd₀, heq⟩ := List.mem_map.mp hmem
    have hvalid : d.settings.Valid b.encrypt := by
      rw [← heq]
      obtain ⟨hname, hhost, hport, husername, hinterval, hretention, hpassword⟩ := h.devices d₀ hd₀
      exact ⟨hname, hhost, hport, husername, hinterval, hretention, hpassword⟩
    obtain ⟨hname, hhost, hport, husername, hinterval, hretention, hpassword⟩ := hvalid
    exact ⟨hname, hhost, hport, husername, hinterval, hretention, hpassword⟩
  clusters := by
    rw [hclusters]
    exact h.clusters
  identities := by
    have hidentity : ∀ devices : List Device,
        (devices.map Device.settings).map Device.identity = devices.map Device.identity := by
      intro devices
      rw [List.map_map]
      rfl
    rw [← hidentity, hdevices, hidentity]
    exact h.identities
  names := by
    rw [hclusters]
    exact h.names
  folded := by
    rw [hclusters]
    exact h.folded

theorem Inventory.insertDevice (h : Inventory b db) {device : Device}
    (hvalid : device.Valid b.encrypt) (hother : ∀ d ∈ db.devices, d.sameIdentity device = false)
    (hclusters : db'.clusters = db.clusters) (hdevices : db'.devices = db.devices ++ [device]) :
    Inventory b db' where
  devices := by
    rw [hdevices]
    intro d hd
    rcases List.mem_append.mp hd with hold | hnew
    · exact h.devices d hold
    · rw [List.mem_singleton.mp hnew]
      exact hvalid
  clusters := hclusters ▸ h.clusters
  identities := by
    rw [hdevices, List.map_append, List.nodup_append']
    refine ⟨h.identities, List.nodup_singleton _, ?_⟩
    intro identity hold hnew
    obtain ⟨d, hd, rfl⟩ := List.mem_map.mp hold
    have hsame := Device.sameIdentity_iff.mpr (List.mem_singleton.mp hnew)
    rw [hother d hd] at hsame
    cases hsame
  names := hclusters ▸ h.names
  folded := hclusters ▸ h.folded

theorem Inventory.writeDevice (h : Inventory b db) {device : Device}
    (hids : (db.devices.map (·.id)).Nodup) (hvalid : device.Valid b.encrypt)
    (hadmits : db.admitsDevice device = true) : Inventory b (db.updateDevice device) where
  devices := by
    intro d' hd'
    obtain ⟨d, hd, rfl⟩ := List.mem_map.mp hd'
    split_ifs
    · exact hvalid
    · exact h.devices d hd
  clusters := h.clusters
  identities := by
    apply nodup_map_update (f := fun _ => device) hids h.identities
    intro _ _ _ d' hd' hid' hsame
    have hother := List.all_eq_true.mp hadmits d' hd'
    rw [← Device.sameIdentity_iff] at hsame
    simp [hid', hsame] at hother
  names := h.names
  folded := h.folded

/-- Two names that the application does not take for the same. -/
def Backend.distinguishes (b : Backend) (name name' : String) : Prop :=
  name ≠ name' ∧ ((∀ text, b.dbLower text = b.lower text) → b.dbLower name ≠ b.dbLower name')

theorem Inventory.distinguishes (h : Inventory b db) {c c' : Cluster} (hc : c ∈ db.clusters)
    (hc' : c' ∈ db.clusters) (hid : c'.id ≠ c.id) : b.distinguishes c'.name c.name := by
  constructor
  · intro hname
    rw [List.inj_on_of_nodup_map h.names hc' hc hname] at hid
    exact hid rfl
  · intro hfold hname
    rw [List.inj_on_of_nodup_map (h.folded hfold) hc' hc hname] at hid
    exact hid rfl

theorem Inventory.insertCluster (h : Inventory b db) {c : Cluster} (hvalid : c.Valid)
    (hother : ∀ c' ∈ db.clusters, b.distinguishes c'.name c.name)
    (hclusters : db'.clusters = db.clusters ++ [c]) (hdevices : db'.devices = db.devices) :
    Inventory b db' where
  devices := hdevices ▸ h.devices
  clusters := by
    rw [hclusters]
    intro c' hc'
    rcases List.mem_append.mp hc' with hold | hnew
    · exact h.clusters c' hold
    · rw [List.mem_singleton.mp hnew]
      exact hvalid
  identities := hdevices ▸ h.identities
  names := by
    rw [hclusters, List.map_append, List.nodup_append']
    refine ⟨h.names, List.nodup_singleton _, ?_⟩
    intro name hold hnew
    obtain ⟨c', hc', rfl⟩ := List.mem_map.mp hold
    exact (hother c' hc').1 (List.mem_singleton.mp hnew)
  folded := by
    intro hfold
    rw [hclusters, List.map_append, List.nodup_append']
    refine ⟨h.folded hfold, List.nodup_singleton _, ?_⟩
    intro name hold hnew
    obtain ⟨c', hc', rfl⟩ := List.mem_map.mp hold
    exact (hother c' hc').2 hfold (List.mem_singleton.mp hnew)

theorem Inventory.updateCluster (h : Inventory b db) {f : Cluster → Cluster} {clusterId : ℕ}
    (hids : (db.clusters.map (·.id)).Nodup)
    (hvalid : ∀ c ∈ db.clusters, c.id = clusterId → (f c).Valid)
    (hother : ∀ c ∈ db.clusters, c.id = clusterId → ∀ c' ∈ db.clusters, c'.id ≠ clusterId →
      b.distinguishes c'.name (f c).name) : Inventory b (db.updateCluster clusterId f) where
  devices := h.devices
  clusters := by
    intro c' hc'
    obtain ⟨c, hc, rfl⟩ := List.mem_map.mp hc'
    split_ifs with hid
    · exact hvalid c hc hid
    · exact h.clusters c hc
  identities := h.identities
  names := by
    apply nodup_map_update hids h.names
    exact fun c hc hid c' hc' hid' => (hother c hc hid c' hc' hid').1
  folded := by
    intro hfold
    apply nodup_map_update hids (h.folded hfold)
    exact fun c hc hid c' hc' hid' => (hother c hc hid c' hc' hid').2 hfold

/-! ## Clusters -/

theorem Inventory.replaceInternalNetworks (h : Inventory b db) {clusterId : ℕ} {cidrs : List String}
    (hids : (db.clusters.map (·.id)).Nodup)
    (hok : replaceInternalNetworks clusterId cidrs db = .ok db') : Inventory b db' := by
  unfold ConnectionTopology.replaceInternalNetworks at hok
  split at hok
  · cases hok
  · rename_i normalized hnormalized
    cases hok
    apply h.updateCluster hids
    · intro c hc _
      obtain ⟨hname, hdescription, hretention, hinterval, -⟩ := h.clusters c hc
      exact ⟨hname, hdescription, hretention, hinterval,
        replacedNetworks_valid (h.clusters c hc).nodup hnormalized⟩
    · rintro c hc rfl c' hc' hid
      have hown : b.distinguishes c'.name c.name := h.distinguishes hc hc' hid
      exact hown

/-- The name of a new cluster passes the check, so nobody else has it. -/
theorem distinguishes_of_find {name normalized : String}
    (hname : normalizeClusterName name = .ok normalized)
    (hfind : findClusterByName b.toCasing normalized db = .ok none)
    (hfree : (db.clusters.any fun c => decide (c.name = normalized)) = false) :
    ∀ c ∈ db.clusters, b.distinguishes c.name normalized := by
  unfold findClusterByName at hfind
  rw [normalizeClusterName_stable hname] at hfind
  intro c hc
  constructor
  · simpa using List.any_eq_false.mp hfree c hc
  · intro hfold
    rw [hfold normalized]
    simpa using List.find?_eq_none.mp (Except.ok.inj hfind) c hc

theorem Inventory.createCluster (h : Inventory b db) (hlinked : db.Linked) {name : String}
    {networks : List String} {interval id : ℕ} {enabled : Bool}
    (hinterval : between 1 10080 interval = true)
    (hok : createCluster b.toCasing name networks interval enabled db = .ok (id, db')) :
    Inventory b db' := by
  unfold ConnectionTopology.createCluster at hok
  split at hok
  · cases hok
  · rename_i normalized hname
    split at hok
    · cases hok
    · cases hok
    · rename_i hfind
      split_ifs at hok with hfree
      dsimp only at hok
      split at hok
      · cases hok
      · rename_i replaced hreplace
        cases hok
        rw [Bool.not_eq_true] at hfree
        have hnew : Cluster.Valid {
            id := db.sequences.clusters
            name := normalized
            scanIntervalMinutes := interval
            scheduledEnabled := enabled } := by
          constructor
          · exact normalizeClusterName_stable hname
          · exact nofun
          · rfl
          · exact hinterval
          · exact ⟨[], normalizeInternalNetworks_nil, List.Perm.refl _⟩
        refine Inventory.replaceInternalNetworks ?_ ?_ hreplace
        · exact h.insertCluster hnew (distinguishes_of_find hname hfind hfree) rfl rfl
        · rw [List.map_append, List.nodup_append']
          refine ⟨hlinked.distinct .clusters, List.nodup_singleton _, ?_⟩
          intro k hold hnew
          rw [List.mem_singleton.mp hnew] at hold
          have hlt : db.sequences.clusters < db.sequences.clusters := hlinked.drawn .clusters _ hold
          exact lt_irrefl _ hlt

/-- The chosen cluster and the database that has it. -/
theorem Inventory.resolveCluster (h : Inventory b db) (hlinked : db.Linked) {clusterId : Option ℕ}
    {newName : Option String} {cluster : Option Cluster}
    (hok : resolveCluster b.toCasing clusterId newName db = .ok (cluster, db')) :
    Inventory b db' := by
  unfold ConnectionTopology.resolveCluster at hok
  split at hok
  · split_ifs at hok
    split at hok <;> cases hok
    exact h
  · split_ifs at hok
    · cases hok
      exact h
    · split at hok
      · cases hok
      · cases hok
        exact h
      · split at hok
        · cases hok
        · rename_i hcreate
          cases hok
          exact h.createCluster hlinked rfl hcreate

theorem Inventory.rowCluster (h : Inventory b db) (hlinked : db.Linked) {parsed : ParsedRow}
    {cluster : Option Cluster} (hinterval : between 1 10080 parsed.scanIntervalMinutes = true)
    (hok : rowCluster b.toCasing parsed db = .ok (cluster, db')) : Inventory b db' := by
  unfold ConnectionTopology.rowCluster at hok
  split_ifs at hok
  · cases hok
    exact h
  · split at hok
    · cases hok
    · cases hok
      exact h
    · split at hok
      · cases hok
      · rename_i hcreate
        cases hok
        exact h.createCluster hlinked hinterval hcreate

theorem ClusterPayload.applyTo_valid {p : ClusterPayload} (haccepted : p.accepted = true)
    {c : Cluster} (hname : normalizeClusterName c.name = .ok c.name)
    (hnetworks : ∃ sorted, normalizeInternalNetworks c.internalNetworks = .ok sorted ∧
      c.internalNetworks.Perm sorted) : (p.applyTo c).Valid := by
  have hbounds := haccepted
  simp only [ClusterPayload.accepted, Bool.and_eq_true] at hbounds
  exact ⟨hname, fun _ => cleanDescription_valid haccepted, hbounds.1.2, hbounds.2, hnetworks⟩

theorem Inventory.addCluster (h : Inventory b db) (hlinked : db.Linked) {p : ClusterPayload}
    (hok : addCluster b p db = .ok db') : Inventory b db' := by
  unfold ConnectionTopology.addCluster at hok
  split_ifs at hok with haccepted
  split at hok
  · cases hok
  · rename_i id created hcreate
    cases hok
    rw [Bool.not_eq_true, Bool.not_eq_false'] at haccepted
    have hcreated := h.createCluster hlinked rfl hcreate
    have hids := (hlinked.grows (createCluster_grows hcreate).1).distinct .clusters
    apply hcreated.updateCluster hids
    · intro c hc _
      obtain ⟨hname, -, -, -, hnetworks⟩ := hcreated.clusters c hc
      exact p.applyTo_valid haccepted hname hnetworks
    · rintro c hc rfl c' hc' hid
      have hown : b.distinguishes c'.name c.name := hcreated.distinguishes hc hc' hid
      exact hown

/-- The members of a cluster take values that are within the bounds. -/
theorem Inventory.applyClusterScanPolicy (h : Inventory b db) (cluster : Cluster)
    (hinterval : between 1 10080 cluster.scanIntervalMinutes = true) :
    Inventory b (applyClusterScanPolicy cluster db).2 where
  devices := by
    intro d' hd'
    obtain ⟨d, hd, rfl⟩ := List.mem_map.mp hd'
    obtain ⟨hname, hhost, hport, husername, hold, hretention, hpassword⟩ := h.devices d hd
    split_ifs
    · exact ⟨hname, hhost, hport, husername, hinterval, hretention, hpassword⟩
    · exact h.devices d hd
  clusters := h.clusters
  identities := by
    have hsame : (ConnectionTopology.applyClusterScanPolicy cluster db).2.devices.map
        Device.identity = db.devices.map Device.identity :=
      map_update (p := fun d : Device => d.clusterId = some cluster.id) (f := fun d => { d with
        scanIntervalMinutes := cluster.scanIntervalMinutes
        scheduledEnabled := cluster.scheduledEnabled }) (fun _ => rfl) _
    rw [hsame]
    exact h.identities
  names := h.names
  folded := h.folded

/-- The lookup answers with one cluster only, and it is the edited one. -/
theorem Inventory.distinguishes_of_nameConflict (h : Inventory b db) {name normalized : String}
    {clusterId : ℕ} (hname : normalizeClusterName name = .ok normalized)
    (hconflict : nameConflict b.toCasing clusterId normalized db = .ok false)
    (hfree : (db.clusters.any fun c => c.id ≠ clusterId && c.name = normalized) = false) :
    ∀ c ∈ db.clusters, c.id ≠ clusterId → b.distinguishes c.name normalized := by
  intro c hc hid
  constructor
  · intro heq
    have hnone := List.any_eq_false.mp hfree c hc
    simp [hid, heq] at hnone
  · intro hfold heq
    unfold nameConflict findClusterByName at hconflict
    rw [normalizeClusterName_stable hname] at hconflict
    have hmatches : decide (b.dbLower c.name = b.lower normalized) = true := by
      rw [heq, hfold]
      exact decide_eq_true rfl
    cases hfind : db.clusters.find? fun c => b.dbLower c.name = b.lower normalized with
    | none => exact List.find?_eq_none.mp hfind c hc hmatches
    | some found =>
      have hfound := List.find?_some hfind
      have hsame : b.dbLower found.name = b.dbLower c.name :=
        (of_decide_eq_true hfound).trans (of_decide_eq_true hmatches).symm
      have hmem := List.mem_of_find?_eq_some hfind
      rw [List.inj_on_of_nodup_map (h.folded hfold) hmem hc hsame] at hfind
      simp [hfind, hid] at hconflict

theorem Inventory.editCluster (h : Inventory b db) (hlinked : db.Linked) {clusterId : ℕ}
    {p : ClusterPayload} {members : List Device}
    (hok : editCluster b clusterId p db = .ok (members, db')) : Inventory b db' := by
  unfold ConnectionTopology.editCluster at hok
  split_ifs at hok with haccepted
  split at hok
  · cases hok
  · rename_i cluster _
    split at hok
    · cases hok
    · rename_i normalized hname
      split at hok
      · cases hok
      · cases hok
      · rename_i hconflict
        split_ifs at hok with hfree
        split at hok
        · cases hok
        · rename_i replaced hreplace
          cases hok
          rw [Bool.not_eq_true, Bool.not_eq_false'] at haccepted
          rw [Bool.not_eq_true] at hfree
          have hids := hlinked.distinct .clusters
          have hedited : Inventory b (db.updateCluster clusterId fun c =>
              { p.applyTo c with name := normalized }) := by
            apply h.updateCluster hids
            · intro c hc _
              exact (p.applyTo_valid (c := { c with name := normalized }) haccepted
                (normalizeClusterName_stable hname) (h.clusters c hc).networks)
            · exact fun c _ _ => h.distinguishes_of_nameConflict hname hconflict hfree
          have hkept : ((db.updateCluster clusterId fun c =>
              { p.applyTo c with name := normalized }).clusters.map (·.id)).Nodup := by
            have hsame : (db.updateCluster clusterId fun c =>
                { p.applyTo c with name := normalized }).clusters.map (·.id) =
                db.clusters.map (·.id) :=
              map_update (f := fun c => { p.applyTo c with name := normalized }) (fun _ => rfl) _
            rw [hsame]
            exact hids
          apply (hedited.replaceInternalNetworks hkept hreplace).applyClusterScanPolicy
          simp only [ClusterPayload.accepted, Bool.and_eq_true] at haccepted
          exact haccepted.2

theorem Inventory.deleteCluster (h : Inventory b db) (clusterId : ℕ) :
    Inventory b (deleteCluster clusterId db) where
  devices := by
    intro d' hd'
    obtain ⟨d, hd, rfl⟩ := List.mem_map.mp hd'
    obtain ⟨hname, hhost, hport, husername, hinterval, hretention, hpassword⟩ := h.devices d hd
    split_ifs
    · exact ⟨hname, hhost, hport, husername, hinterval, hretention, hpassword⟩
    · exact h.devices d hd
  clusters := fun c hc => h.clusters c (List.mem_of_mem_filter hc)
  identities := by
    have hsame : (ConnectionTopology.deleteCluster clusterId db).devices.map Device.identity =
        db.devices.map Device.identity :=
      map_update (p := fun d : Device => d.clusterId = some clusterId)
        (f := fun d => { d with clusterId := none }) (fun _ => rfl) _
    rw [hsame]
    exact h.identities
  names := h.names.sublist (List.filter_sublist.map _)
  folded := fun hfold => (h.folded hfold).sublist (List.filter_sublist.map _)

/-! ## Devices -/

/-- The interval of a device comes from its cluster or from the payload. -/
theorem clusterScanValues_valid {cluster : Option Cluster} {interval : ℕ} {enabled : Bool}
    (hcluster : ∀ c, cluster = some c → between 1 10080 c.scanIntervalMinutes = true)
    (hinterval : between 1 10080 interval = true) :
    between 1 10080 (clusterScanValues cluster interval enabled).1 = true := by
  cases cluster with
  | none => exact hinterval
  | some c => exact hcluster c rfl

theorem Inventory.createDevice (h : Inventory b db) (hlinked : db.Linked) {p : DeviceCreate}
    {device : Device} (hok : createDevice b p db = .ok (device, db')) : Inventory b db' := by
  unfold ConnectionTopology.createDevice at hok
  split_ifs at hok with haccepted
  split at hok
  · cases hok
  · split at hok
    · cases hok
    · rename_i cluster mid hresolve
      dsimp only at hok
      split_ifs at hok with hconflict
      cases hok
      rw [Bool.not_eq_true, Bool.not_eq_false'] at haccepted
      rw [Bool.not_eq_true] at hconflict
      have hmid := h.resolveCluster hlinked hresolve
      refine hmid.insertDevice ?_ ?_ rfl rfl
      · simp only [DeviceCreate.accepted, Bool.and_eq_true] at haccepted
        obtain ⟨⟨⟨⟨⟨⟨⟨⟨⟨hname, hhost⟩, hport⟩, husername⟩, hpassword⟩, hinterval⟩, hretention⟩,
          -⟩, -⟩, -⟩ := haccepted
        constructor
        · exact hname
        · exact hhost
        · show between 1 65535 p.effectivePort = true
          unfold DeviceCreate.effectivePort
          cases hgiven : p.port with
          | none => cases p.osType <;> decide
          | some port => simpa [hgiven] using hport
        · exact husername
        · apply clusterScanValues_valid _ hinterval
          intro c hc
          exact (hmid.clusters c ((resolveCluster_ok hresolve).1 c hc)).interval
        · exact hretention
        · simp only [lengthBetween, Bool.and_eq_true, decide_eq_true_eq] at hpassword
          refine ⟨p.password, rfl, hpassword.2, iff_of_true rfl ?_⟩
          rintro hempty
          rw [hempty] at hpassword
          exact absurd hpassword.1 (by decide)
      · intro d hd
        have hother := List.any_eq_false.mp hconflict d hd
        rw [Bool.not_eq_true] at hother
        rw [← hother]
        rw [Bool.eq_iff_iff, Device.sameIdentity_iff, Device.sameIdentity_iff, eq_comm]

/-- A column after the update: the old value, or one that the schema has checked. -/
theorem UpdateField.getD_valid {α : Type} {field : UpdateField α} {check : α → Bool} {old new : α}
    (hfield : UpdateField.all field check = true) (hold : check old = true)
    (hnew : field.getD (some old) = some new) : check new = true := by
  cases field with
  | none => exact Option.some.inj hnew ▸ hold
  | some given =>
    rw [Option.getD_some] at hnew
    simpa [UpdateField.all, hnew] using hfield

/-- Choosing a cluster changes the reference and the scan values of a draft. -/
theorem assignCluster_draft {p : DeviceUpdate} {x y : DeviceDraft} {d : Device}
    (hok : p.assignCluster b x d db = .ok (y, db')) :
    (y.name = x.name ∧ y.host = x.host ∧ y.port = x.port ∧ y.username = x.username ∧
      y.historyRetentionDays = x.historyRetentionDays) ∧
    (y.scanIntervalMinutes = x.scanIntervalMinutes ∨
      ∃ c ∈ db'.clusters, y.scanIntervalMinutes = some c.scanIntervalMinutes) := by
  unfold DeviceUpdate.assignCluster at hok
  split_ifs at hok
  · split at hok
    · cases hok
    · cases hok
      exact ⟨⟨rfl, rfl, rfl, rfl, rfl⟩, Or.inl rfl⟩
    · rename_i c mid hresolve
      split_ifs at hok
      cases hok
      exact ⟨⟨rfl, rfl, rfl, rfl, rfl⟩, Or.inr ⟨c, (resolveCluster_ok hresolve).1 c rfl, rfl⟩⟩
  · cases hok
    exact ⟨⟨rfl, rfl, rfl, rfl, rfl⟩, Or.inl rfl⟩

theorem DeviceDraft.flush_row {x : DeviceDraft} {d row : Device} (hok : x.flush d = some row) :
    (x.name = some row.name ∧ x.host = some row.host ∧ x.port = some row.port ∧
      x.username = some row.username ∧ x.scanIntervalMinutes = some row.scanIntervalMinutes) ∧
    row.historyRetentionDays = x.historyRetentionDays ∧
      row.encryptedPassword = d.encryptedPassword ∧ row.collectionEnabled = d.collectionEnabled := by
  unfold DeviceDraft.flush at hok
  split at hok
  · rename_i hname hhost _ hport husername hinterval _
    cases hok
    exact ⟨⟨hname, hhost, hport, husername, hinterval⟩, rfl, rfl, rfl⟩
  · cases hok

theorem withPassword_valid {p : DeviceUpdate} (haccepted : p.accepted = true) {d : Device}
    (h : d.Valid b.encrypt) : (p.withPassword b d).Valid b.encrypt := by
  unfold DeviceUpdate.withPassword
  dsimp only
  split_ifs with hnew
  · obtain ⟨hname, hhost, hport, husername, hinterval, hretention, -⟩ := h
    refine ⟨hname, hhost, hport, husername, hinterval, hretention, _, rfl, ?_, iff_of_true rfl hnew⟩
    simp only [DeviceUpdate.accepted, Bool.and_eq_true] at haccepted
    have hlength := haccepted.1.1.1.1.1.2
    cases hgiven : p.password.join with
    | none =>
      rw [hgiven] at hnew
      exact absurd rfl hnew
    | some password =>
      simp only [UpdateField.all, hgiven, Option.all_some, lengthBetween, Bool.and_eq_true,
        decide_eq_true_eq] at hlength
      exact hlength.2
  · exact h

theorem Inventory.updateDevice (h : Inventory b db) (hlinked : db.Linked) {deviceId : ℕ}
    {p : DeviceUpdate} {device : Device} (hok : updateDevice b deviceId p db = .ok (device, db')) :
    Inventory b db' := by
  unfold ConnectionTopology.updateDevice at hok
  split_ifs at hok with haccepted
  split at hok
  · cases hok
  · rename_i old hold
    split at hok
    · cases hok
    · split at hok
      · cases hok
      · rename_i draft mid hassign
        split at hok
        · cases hok
        · rename_i row hflush
          dsimp only at hok
          split_ifs at hok with hadmits
          cases hok
          rw [Bool.not_eq_true, Bool.not_eq_false'] at haccepted
          have hmid : Inventory b mid := by
            unfold DeviceUpdate.assignCluster at hassign
            split_ifs at hassign
            · split at hassign
              · cases hassign
              · rename_i hresolve
                cases hassign
                exact h.resolveCluster hlinked hresolve
              · rename_i hresolve
                split_ifs at hassign
                cases hassign
                exact h.resolveCluster hlinked hresolve
            · cases hassign
              exact h
          have hlinks := hlinked.grows (assignCluster_chooses hassign).grows
          have hids := hlinks.distinct .devices
          apply hmid.writeDevice hids (withPassword_valid haccepted ?_) hadmits
          have hvalid := h.devices old (List.mem_of_find?_eq_some hold)
          obtain ⟨⟨hname, hhost, hport, husername, hretention⟩, hinterval⟩ :=
            assignCluster_draft hassign
          obtain ⟨⟨hname', hhost', hport', husername', hinterval'⟩, hretention', hpassword,
            henabled⟩ := DeviceDraft.flush_row hflush
          have hchecks := haccepted
          simp only [DeviceUpdate.accepted, Bool.and_eq_true] at hchecks
          obtain ⟨⟨⟨⟨⟨⟨⟨⟨⟨cname, chost⟩, cport⟩, cusername⟩, -⟩, cinterval⟩, cretention⟩, -⟩, -⟩, -⟩ :=
            hchecks
          constructor
          · exact UpdateField.getD_valid cname hvalid.name (hname.symm.trans hname')
          · exact UpdateField.getD_valid chost hvalid.host (hhost.symm.trans hhost')
          · exact UpdateField.getD_valid cport hvalid.port (hport.symm.trans hport')
          · exact UpdateField.getD_valid cusername hvalid.username (husername.symm.trans husername')
          · rcases hinterval with hplain | ⟨c, hc, hcluster⟩
            · exact UpdateField.getD_valid cinterval hvalid.interval (hplain.symm.trans hinterval')
            · rw [hcluster] at hinterval'
              exact Option.some.inj hinterval' ▸ (hmid.clusters c hc).interval
          · rw [hretention', hretention]
            show (p.historyRetentionDays.getD old.historyRetentionDays).all (between 1 3650) = true
            cases hgiven : p.historyRetentionDays with
            | none => exact hvalid.retention
            | some given => simpa [UpdateField.all, hgiven] using cretention
          · rw [hpassword, henabled]
            exact hvalid.password

theorem Inventory.deleteDevice (h : Inventory b db) {deviceId : ℕ} {wall : Timestamp}
    (hok : deleteDevice deviceId wall db = .ok db') : Inventory b db' := by
  obtain ⟨hdevices, hclusters, -, -⟩ := deleteDevice_ok hok
  constructor
  · intro d hd
    rw [hdevices] at hd
    exact h.devices d (List.mem_of_mem_filter hd)
  · exact hclusters ▸ h.clusters
  · rw [hdevices]
    exact h.identities.sublist (List.filter_sublist.map _)
  · exact hclusters ▸ h.names
  · exact hclusters ▸ h.folded

/-! ## Rows of an import -/

theorem cellText_bounds {cell : Cell} {field text : String} {required : Bool} {maxLength : ℕ}
    (hok : cellText cell field required maxLength = .ok text) :
    text.length ≤ maxLength ∧ (required = true → text ≠ "") := by
  have htext := cellText_ok hok
  unfold cellText at hok
  split_ifs at hok with hmissing hlong
  rw [htext]
  refine ⟨not_lt.mp hlong, fun hrequired hempty => hmissing ?_⟩
  simp [hrequired, hempty]

theorem cellText_required {cell : Cell} {field text : String} {maxLength : ℕ}
    (hok : cellText cell field true maxLength = .ok text) :
    lengthBetween 1 maxLength text = true := by
  obtain ⟨hlong, hnonempty⟩ := cellText_bounds hok
  have hpos : text.length ≠ 0 := fun hzero => hnonempty rfl (String.length_eq_zero_iff.mp hzero)
  simp only [lengthBetween, Bool.and_eq_true, decide_eq_true_eq]
  omega

theorem cellInteger_bounds {cell : Cell} {field : String} {default minimum maximum n : ℕ}
    (hdefault : between minimum maximum default = true)
    (hok : cellInteger cell field default minimum maximum = .ok n) :
    between minimum maximum n = true := by
  unfold cellInteger at hok
  split_ifs at hok
  · cases hok
    exact hdefault
  · split at hok
    · cases hok
    · split_ifs at hok with hbounds
      cases hok
      simp only [between, Bool.and_eq_true, decide_eq_true_eq]
      omega

/-- What `_parse_row` checks, the default port included. -/
structure ParsedRow.Valid (parsed : ParsedRow) : Prop where
  name : lengthBetween 1 100 parsed.name = true
  host : lengthBetween 1 255 parsed.host = true
  port : between 1 65535 parsed.port = true
  username : lengthBetween 1 255 parsed.username = true
  password : parsed.password.length ≤ 1024
  interval : between 1 10080 parsed.scanIntervalMinutes = true

theorem parseRow_valid {lower : String → String} {cells : ImportCells} {parsed : ParsedRow}
    (hok : parseRow lower cells = .ok parsed) : parsed.Valid := by
  unfold parseRow at hok
  obtain ⟨name, hname, hok⟩ := bind_eq_ok hok
  obtain ⟨host, hhost, hok⟩ := bind_eq_ok hok
  obtain ⟨osText, -, hok⟩ := bind_eq_ok hok
  obtain ⟨osType, -, hok⟩ := bind_eq_ok hok
  obtain ⟨password, hpassword, hok⟩ := bind_eq_ok hok
  obtain ⟨clusterName, -, hok⟩ := bind_eq_ok hok
  dsimp only at hok
  split at hok
  · cases hok
  · obtain ⟨port, hport, hok⟩ := bind_eq_ok hok
    obtain ⟨username, husername, hok⟩ := bind_eq_ok hok
    obtain ⟨interval, hinterval, hok⟩ := bind_eq_ok hok
    obtain ⟨enabled, -, hok⟩ := bind_eq_ok hok
    cases hok
    constructor
    · exact cellText_required hname
    · exact cellText_required hhost
    · exact cellInteger_bounds (by split_ifs <;> rfl) hport
    · exact cellText_required husername
    · exact (cellText_bounds hpassword).1
    · exact cellInteger_bounds rfl hinterval

theorem ParsedRow.Valid.device {parsed : ParsedRow} (h : parsed.Valid) {cluster : Option Cluster}
    (hcluster : ∀ c, cluster = some c → between 1 10080 c.scanIntervalMinutes = true) (id : ℕ) :
    (parsed.device b.encrypt cluster id).Valid b.encrypt where
  name := h.name
  host := h.host
  port := h.port
  username := h.username
  interval := clusterScanValues_valid hcluster h.interval
  retention := rfl
  password := ⟨parsed.password, rfl, h.password, decide_eq_true_iff⟩

/-- The database of a row, and the device that it is about to add. -/
theorem Inventory.rowOutcome (h : Inventory b db) (hlinked : db.Linked) (cells : ImportCells)
    (rowNumber : ℕ) :
    let row := rowOutcome b.toCasing b.encrypt cells rowNumber db
    Inventory b row.2 ∧ ∀ device, row.1.outcome = .imported device →
      device.Valid b.encrypt ∧ ∀ d ∈ row.2.devices, d.sameIdentity device = false := by
  unfold ConnectionTopology.rowOutcome
  dsimp only
  split
  · exact ⟨h, nofun⟩
  · rename_i parsed hparsed
    split
    · split_ifs <;> exact ⟨h, nofun⟩
    · rename_i hnone
      split
      · exact ⟨h, nofun⟩
      · exact ⟨h, nofun⟩
      · rename_i cluster mid hcluster
        have hvalid := parseRow_valid hparsed
        have hmid := h.rowCluster hlinked hvalid.interval hcluster
        refine ⟨hmid.congr rfl rfl, ?_⟩
        rintro device ⟨⟩
        constructor
        · apply hvalid.device
          exact fun c hc => (hmid.clusters c ((rowCluster_ok hcluster).1 c hc)).interval
        · intro d hd
          rw [(rowCluster_chooses hcluster).only.devices] at hd
          have hother := List.find?_eq_none.mp hnone d hd
          simpa [Device.sameIdentity, ParsedRow.device] using hother

theorem Inventory.importRow (h : Inventory b db) (hlinked : db.Linked) (cells : ImportCells)
    (rowNumber : ℕ) (copy : ImportBatch) :
    Inventory b (importRow (ConnectionTopology.rowOutcome b.toCasing b.encrypt cells rowNumber db).1
      copy (ConnectionTopology.rowOutcome b.toCasing b.encrypt cells rowNumber db).2).2 := by
  obtain ⟨hmid, hdevice⟩ := h.rowOutcome hlinked cells rowNumber
  set row := ConnectionTopology.rowOutcome b.toCasing b.encrypt cells rowNumber db
  obtain ⟨hclusters, -, -, hdevices⟩ := importRow_frame row.1 copy row.2
  cases houtcome : row.1.outcome with
  | imported device =>
    obtain ⟨hvalid, hother⟩ := hdevice device houtcome
    rw [houtcome] at hdevices
    exact hmid.insertDevice hvalid hother hclusters hdevices
  | skipped deviceId | annotationConflict deviceId | failed failure transactionOpen =>
    simp only [houtcome, RowOutcome.devices, List.append_nil] at hdevices
    exact hmid.congr hclusters (congrArg _ hdevices)

theorem Inventory.importRows (h : Inventory b db) (hlinked : db.Linked)
    {rows : List (ℕ × ImportCells)} {copy : ImportBatch}
    (hbatch : copy.id ∈ db.importBatches.map (·.id)) :
    Inventory b (importRows b.toCasing b.encrypt rows copy db).2 := by
  induction rows generalizing copy db with
  | nil => exact h
  | cons row rest ih =>
    have hextends := importRow_extends b.toCasing b.encrypt row.2 row.1 hbatch
    apply ih (h.importRow hlinked row.2 row.1 copy) (hlinked.grows hextends.grows)
    rw [(importRow_results _ copy _).1]
    exact hextends.grows.subset .importBatches hbatch

theorem Inventory.importDevices (h : Inventory b db) (hlinked : db.Linked) (filename : String)
    (rows : List (ℕ × ImportCells)) (wall : Timestamp) :
    Inventory b (importDevices b.toCasing b.encrypt filename rows wall db).2 := by
  have hcreated : Inventory b (createImportBatch filename rows.length db).2 := h.congr rfl rfl
  have hlinks := hlinked.grows (createImportBatch_extends filename rows.length db).grows
  have hbatch : (createImportBatch filename rows.length db).1.id ∈
      (createImportBatch filename rows.length db).2.importBatches.map (·.id) :=
    List.mem_map_of_mem (List.mem_append_right _ List.mem_cons_self)
  exact (hcreated.importRows hlinks hbatch).congr rfl rfl

theorem Inventory.requestStep (h : Inventory b db) (hlinked : db.Linked) {request : Request}
    (hstep : requestStep b db request = some db') : Inventory b db' := by
  unfold ConnectionTopology.requestStep at hstep
  split at hstep
  · cases hstep
    exact h
  · rename_i hperform
    cases hstep
    cases request with
    | createDevice payload =>
      obtain ⟨r, hcreate, rfl⟩ := Except.map_eq_ok hperform
      exact h.createDevice hlinked hcreate
    | updateDevice deviceId payload =>
      obtain ⟨r, hupdate, rfl⟩ := Except.map_eq_ok hperform
      exact h.updateDevice hlinked hupdate
    | deleteDevice deviceId wall =>
      simp only [performRequest] at hperform
      split at hperform
      · cases hperform
      · rename_i hdelete
        cases hperform
        exact h.deleteDevice hdelete
    | addCluster payload =>
      obtain ⟨r, hadd, rfl⟩ := Except.map_eq_ok hperform
      exact h.addCluster hlinked hadd
    | editCluster clusterId payload => exact h.editCluster hlinked hperform
    | removeCluster clusterId =>
      obtain ⟨r, hremove, rfl⟩ := Except.map_eq_ok hperform
      unfold ConnectionTopology.removeCluster at hremove
      split_ifs at hremove
      cases hremove
      exact h.deleteCluster clusterId
    | importDevices filename rows wall =>
      cases hperform
      exact h.importDevices hlinked filename rows wall

/-! ## Runs -/

/-- A recorded scan leaves its traces on the device only. -/
theorem addScanOutcome_inventory {outcome : ScanOutcome} {run : ScanRun}
    (hok : addScanOutcome outcome db = .ok (run, db')) :
    db'.clusters = db.clusters ∧ db'.devices.map Device.settings = db.devices.map Device.settings := by
  unfold addScanOutcome at hok
  split at hok
  · cases hok
  · dsimp only at hok
    rw [syncServiceObservations_eq] at hok
    cases hok
    refine ⟨rfl, ?_⟩
    exact map_update (f := fun d : Device => { d with
      lastScanStatus := some outcome.status
      lastScanAt := some outcome.finishedAt }) (fun _ => rfl) _

theorem Inventory.store (h : Inventory b db) (hsame : db.SameStore db') : Inventory b db' :=
  h.congr hsame.1 (congrArg _ hsame.2.1)

theorem Inventory.appStep (h : Inventory b db) (hlinked : db.Linked) {action : AppAction}
    (hstep : appStep b db action = some db') : Inventory b db' := by
  cases action with
  | queue call =>
    simp only [ConnectionTopology.appStep] at hstep
    split_ifs at hstep
    cases hstep
    rcases perform_store call db with hsame | ⟨outcome, run, mid, -, hadd, hsame⟩
    · exact h.store hsame
    · obtain ⟨hclusters, hdevices⟩ := addScanOutcome_inventory hadd
      exact (h.congr hclusters hdevices).store hsame
  | request request => exact h.requestStep hlinked hstep
  | importRow copy rowNumber cells =>
    simp only [ConnectionTopology.appStep] at hstep
    split_ifs at hstep
    cases hstep
    exact h.importRow hlinked cells rowNumber copy
  | claimTests workerId localCapacity globalLimit leaseSeconds now wall =>
    cases hstep
    exact h.store (claimImportTests_only ..).store
  | claimSpecific workerId rowId globalLimit leaseSeconds now wall =>
    cases hstep
    exact h.store (claimSpecific_only ..).store
  | renewTests workerId rowIds leaseSeconds now =>
    cases hstep
    exact h.store (renewImportTestLeases_only ..).store
  | saveResult workerId rowId outcome now wall =>
    simp only [ConnectionTopology.appStep] at hstep
    split at hstep
    · cases hstep
      exact h
    · rename_i hsave
      cases hstep
      exact h.store (saveResult_only hsave).store
  | createImportBatch filename totalRows | finishImport copy wall | deleteScanRuns scanIds
  | deleteConnectionRecords scanIds | syncObservations lowerScanId upperScanId =>
    cases hstep
    exact h.congr rfl rfl

/-- Whatever the order of the transactions, every stored device and cluster is within the bounds
and none is stored twice. -/
theorem inventory_of_run {actions : List AppAction}
    (hrun : Machine.run (appStep b) {} actions = some db) : Inventory b db := by
  have hempty : Database.Sound {} ∧ Inventory b {} :=
    ⟨.empty, ⟨nofun, nofun, List.nodup_nil, List.nodup_nil, fun _ => List.nodup_nil⟩⟩
  exact (Machine.run_invariant (fun db => db.Sound ∧ Inventory b db)
    (fun _ _ _ h hstep => ⟨h.1.appStep hstep, h.2.appStep h.1.linked hstep⟩) hempty hrun).2

/-- Names are compared as they are written. -/
def exactBackend : Backend := { plainBackend with lower := id, dbLower := id }

/-- A cluster with an internal network, a device, and an imported row that names the cluster. -/
def clusterThenImport : List AppAction :=
  [.request (.addCluster { name := " office ", internalNetworks := ["10.0.0.0/8"] }),
    .request (.createDevice
      { name := "web-01", host := "10.0.0.10", osType := .linux, username := "root",
        password := "secret", clusterId := some 1 }),
    .createImportBatch "devices.xlsx" 1,
    .importRow { id := 1, filename := "devices.xlsx", totalRows := 1 } 2
      { name := .text "web-02", host := .text "10.0.0.11", osType := .text "linux", port := .empty,
        username := .text "root", password := .empty, clusterName := .text "office",
        scanIntervalMinutes := .empty, scheduledEnabled := .empty }]

theorem clusterThenImport_inventory :
    ∃ db, Machine.run (appStep exactBackend) {} clusterThenImport = some db ∧
      db.clusters.map (·.id) = [1] ∧ db.devices.map (·.clusterId) = [some 1, some 1] ∧
      Inventory exactBackend db := by
  have hrun : ((Machine.run (appStep exactBackend) {} clusterThenImport).any fun db =>
      db.clusters.map (·.id) = [1] ∧ db.devices.map (·.clusterId) = [some 1, some 1]) =
      true := by decide +kernel
  obtain ⟨db, hdb, hrows⟩ := (Option.any_eq_true _ _).mp hrun
  have hstored : db.clusters.map (·.id) = [1] ∧
      db.devices.map (·.clusterId) = [some 1, some 1] := of_decide_eq_true hrows
  exact ⟨db, hdb, hstored.1, hstored.2, inventory_of_run hdb⟩

end ConnectionTopology
