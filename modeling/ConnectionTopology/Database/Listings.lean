import ConnectionTopology.Database.ScanRequests

/-!
# Pages that miss nothing

The pages of the device list and of the failures of a batch, in every database that the
application reaches. Keys are distinct there, so no row is listed twice, and no reference dangles,
so the joins lose nothing.
-/
namespace ConnectionTopology

variable {db : Database} {b : Backend} {actions : List AppAction}

/-! ## Devices -/

theorem size_pos {pageSize : ℤ} (h : pageSize ∈ allowedPageSizes) : 0 < pageSize.toNat := by
  unfold allowedPageSizes at h
  simp only [List.mem_cons, List.not_mem_nil, or_false] at h
  omega

theorem listDevicePage_ok (collation : LinearOrder String) (query : String) (n : ℕ) {pageSize : ℤ}
    (h : pageSize ∈ allowedPageSizes) (db : Database) :
    listDevicePage collation query (n + 1) pageSize db =
      .ok (devicePage collation (Text.strip query) (n + 1) pageSize.toNat db) := by
  unfold listDevicePage
  rw [if_neg (by omega), if_neg (not_not.mpr h)]
  rfl

/-- The pages show the devices whose name or host contains the query, each once and in order; each
page tells the places of its first and its last device and links to the pages around it, and a page
behind the last one is the last one. -/
theorem device_pages (hrun : Machine.run (appStep b) {} actions = some db)
    (collation : LinearOrder String) (query : String) {pageSize : ℤ}
    (hsize : pageSize ∈ allowedPageSizes) :
    ∃ pages : ℕ → DevicePage, (∀ n : ℕ,
        listDevicePage collation query (n + 1) pageSize db = .ok (pages n)) ∧
      let total := (pages 0).totalPages
      let shown := (List.range total).flatMap fun n => (pages n).items
      (∀ d, d ∈ shown ↔ d ∈ db.devices ∧ ((Text.strip query).toList <:+: d.name.toList ∨
        (Text.strip query).toList <:+: d.host.toList)) ∧
      shown.Pairwise (fun d d' => d.listedBefore collation d' ∧ d.id ≠ d'.id) ∧
      (∀ n < total, (pages n).page = n + 1 ∧ (pages n).items ≠ [] ∧
        (pages n).firstItem = n * pageSize.toNat + 1 ∧
        (pages n).lastItem = min ((n + 1) * pageSize.toNat) shown.length ∧
        ∀ k, k ∈ linkedPages (pages n).pageLinks ↔ 1 ≤ k ∧ k ≤ total ∧
          (total ≤ 7 ∨ k = 1 ∨ k = total ∨ n + 1 ≤ k + 2 ∧ k ≤ n + 1 + 2)) ∧
      ∀ n, total ≤ n → pages n = pages (total - 1) := by
  have hpos := size_pos hsize
  set rows := listedDevices collation (Text.strip query) db with hrows
  set pages : ℕ → DevicePage := fun n =>
    devicePage collation (Text.strip query) (n + 1) pageSize.toNat db
  have htotal : ∀ n, (pages n).totalPages = rows.length ⌈/⌉ pageSize.toNat :=
    fun _ => devicePage_totalPages
  have hshown : ((List.range (rows.length ⌈/⌉ pageSize.toNat)).flatMap fun n => (pages n).items) =
      rows := by
    rw [List.flatMap_congr fun n hn => (devicePage_of_lt hpos (List.mem_range.mp hn)).2.1]
    exact Chunks.flatMap_all_pages rows hpos
  refine ⟨pages, fun n => listDevicePage_ok collation query n hsize db, ?_⟩
  dsimp only
  rw [htotal, hshown]
  refine ⟨fun d => mem_listedDevices, ?_, fun n hn => ?_, fun n hn => devicePage_of_le hn⟩
  · have hkeys : (db.devices.map (·.id)).Nodup := by
      have hsound : db.Sound :=
        Machine.run_invariant Database.Sound (fun _ _ _ h hstep => h.appStep hstep) .empty hrun
      exact hsound.linked.distinct .devices
    have hids : (rows.map (·.id)).Nodup := by
      rw [hrows, listedDevices, ((List.perm_insertionSort _ _).map _).nodup_iff]
      exact (List.filter_sublist.map _).nodup hkeys
    exact (listedDevices_sorted collation _ db).and (List.pairwise_map.mp hids)
  · obtain ⟨hpage, -, hsome, hfirst, hlast⟩ := devicePage_of_lt hpos hn
    have hlinks : (pages n).pageLinks = buildPageLinks (pages n).page (pages n).totalPages := rfl
    have hshownPage : (pages n).page = n + 1 := hpage
    rw [hlinks, hshownPage, htotal]
    exact ⟨rfl, hsome, hfirst, hlast, (buildPageLinks_spec (by omega) hn).2.1⟩

theorem scanThenDelete_devices :
    ∃ db, Machine.run (appStep plainBackend) {} scanThenDelete = some db ∧
      ∃ pages : ℕ → DevicePage, (∀ n : ℕ,
        listDevicePage inferInstance " web" (n + 1) 20 db = .ok (pages n)) ∧
        ∀ n, (pages 0).totalPages ≤ n → pages n = pages ((pages 0).totalPages - 1) := by
  have hrun : (Machine.run (appStep plainBackend) {} scanThenDelete).isSome = true := by
    decide +kernel
  obtain ⟨db, hdb⟩ := Option.isSome_iff_exists.mp hrun
  have hsize : (20 : ℤ) ∈ allowedPageSizes := by decide
  obtain ⟨pages, hpages, -, -, -, hbehind⟩ := device_pages hdb inferInstance " web" hsize
  exact ⟨db, hdb, pages, hpages, hbehind⟩

theorem devicesPage_eq {collation : LinearOrder String} {q : String} {pageSize : ℤ}
    (hlength : q.length ≤ 255) (hsize : pageSize ∈ allowedPageSizes) (n : ℕ) (db : Database) :
    let shown := devicePage collation (Text.strip q) (n + 1) pageSize.toNat db
    devicesPage collation q (n + 1) pageSize db =
      if n + 1 = shown.page ∧ q = Text.strip q then .ok (.rendered shown)
      else .ok (.redirect (if Text.strip q = "" then none else some (Text.strip q)) shown.page
        pageSize.toNat) := by
  intro shown
  have hchecks : ((n + 1 : ℤ) < 1 || 255 < q.length) = false := by
    rw [Bool.or_eq_false_iff, decide_eq_false_iff_not, decide_eq_false_iff_not]
    omega
  have hredirect : ((n + 1 : ℤ) ≠ shown.page ∨ q ≠ shown.query) ↔
      ¬ (n + 1 = shown.page ∧ q = Text.strip q) := by
    have hpage : (n + 1 : ℤ) = shown.page ↔ n + 1 = shown.page := by omega
    have hquery : shown.query = Text.strip q := rfl
    rw [hquery, not_and_or, Ne, Ne, hpage]
  unfold devicesPage
  rw [hchecks, if_neg Bool.false_ne_true, if_neg (not_not.mpr hsize),
    listDevicePage_ok collation q n hsize db]
  change (if (n + 1 : ℤ) ≠ shown.page ∨ q ≠ shown.query then _ else _) = _
  rw [if_congr hredirect rfl rfl, ite_not]
  rfl

/-- A redirect of the device page leads to a page that is shown. -/
theorem devices_page_settles (collation : LinearOrder String) {q : String} {page pageSize : ℤ}
    {q' : Option String} {page' pageSize' : ℕ}
    (h : devicesPage collation q page pageSize db = .ok (.redirect q' page' pageSize')) :
    ∃ shown, devicesPage collation (q'.getD "") page' pageSize' db = .ok (.rendered shown) ∧
      shown.page = page' ∧ shown.query = Text.strip q := by
  have hchecks : (page < 1 || 255 < q.length) = false ∧ pageSize ∈ allowedPageSizes := by
    unfold devicesPage at h
    split_ifs at h with hchecks hsize
    exact ⟨Bool.eq_false_iff.mpr hchecks, hsize⟩
  obtain ⟨hchecks, hsize⟩ := hchecks
  rw [Bool.or_eq_false_iff, decide_eq_false_iff_not, decide_eq_false_iff_not] at hchecks
  obtain ⟨hpage, hlength⟩ := hchecks
  obtain ⟨n, rfl⟩ : ∃ n : ℕ, page = n + 1 := ⟨page.toNat - 1, by omega⟩
  rw [devicesPage_eq (by omega) hsize n db] at h
  set shown := devicePage collation (Text.strip q) (n + 1) pageSize.toNat db with hshown
  have hpositive : 0 < shown.page := by
    rw [hshown, devicePage_page]
    split_ifs <;> omega
  have hsettled : (devicePage collation (Text.strip q) shown.page pageSize.toNat db).page =
      shown.page := by
    rw [hshown, devicePage_page, devicePage_page]
    split_ifs
    · rfl
    · rw [min_assoc, min_self]
  have hresponse : q'.getD "" = Text.strip q ∧ page' = shown.page ∧ pageSize' = pageSize.toNat := by
    split_ifs at h with hsame hempty
    · cases h
    · cases h
      exact ⟨hempty.symm, rfl, rfl⟩
    · cases h
      exact ⟨rfl, rfl, rfl⟩
  obtain ⟨hquery, rfl, rfl⟩ := hresponse
  refine ⟨devicePage collation (Text.strip q) shown.page pageSize.toNat db, ?_, hsettled, rfl⟩
  have hcast : ((pageSize.toNat : ℕ) : ℤ) = pageSize := by
    have := size_pos hsize
    omega
  have hshort : (Text.strip q).length ≤ 255 := (Text.length_strip_le q).trans (by omega)
  obtain ⟨k, hk⟩ := Nat.exists_eq_add_of_lt hpositive
  have hk : shown.page = k + 1 := by omega
  rw [hquery, hcast, hk, Nat.cast_succ, devicesPage_eq hshort hsize k db, Text.strip_idem]
  rw [hk] at hsettled
  rw [if_pos ⟨hsettled.symm, rfl⟩]

theorem page_behind_the_last_settles :
    ∃ shown, devicesPage inferInstance "web" 1 20 {} = .ok (.rendered shown) ∧
      shown.page = 1 ∧ shown.query = Text.strip " web" := by
  have hredirect : devicesPage inferInstance " web" 3 20 {} =
      .ok (.redirect (some "web") 1 20) := by decide
  exact devices_page_settles inferInstance hredirect

/-! ## Failures -/

/-- Every failed or cancelled item of a batch is joined with its task and device, and the pages show
those that the query finds, each once, the last to end first. -/
theorem failure_pages (hrun : Machine.run (appStep b) {} actions = some db)
    (lower : Char → Char) {batchId : ℕ} (hbatch : batchId ∈ db.scanBatches.map (·.id))
    {query : String} (hquery : query.length ≤ 200) {pageSize : ℕ} (hsize : 1 ≤ pageSize)
    (hlarge : pageSize ≤ 100) :
    ∃ (joined rows : List JoinedItem) (pages : ℕ → BatchFailurePage),
      joined.map (·.item) = failedItems batchId db ∧
      (∀ j ∈ joined, j.task ∈ db.scanTasks ∧ j.task.id = j.item.taskId ∧ j.device ∈ db.devices ∧
        j.device.id = j.item.deviceId) ∧
      rows.Perm (joined.filter (·.isFound lower (Text.strip query))) ∧
      rows.Pairwise JoinedItem.listedBefore ∧
      (∀ n : ℕ, getScanBatchFailures lower batchId (n + 1) pageSize query db = .ok (pages n)) ∧
      (∀ n, (pages n).total = rows.length ∧ (pages n).pages = rows.length ⌈/⌉ pageSize ∧
        (pages n).items = ((rows.drop (n * pageSize)).take pageSize).map JoinedItem.row) ∧
      ((List.range (pages 0).pages).flatMap fun n => (pages n).items) = rows.map JoinedItem.row := by
  have hsound : db.Sound :=
    Machine.run_invariant Database.Sound (fun _ _ _ h hstep => h.appStep hstep) .empty hrun
  obtain ⟨batch, hbatch, hid⟩ := List.mem_map.mp hbatch
  have hfind : db.scanBatches.find? (·.id = batchId) = some batch := by
    rw [← hid]
    exact Dict.find?_key_of_mem (hsound.linked.distinct .scanBatches) hbatch
  have hjoin : ∀ i ∈ failedItems batchId db, (joinItem db i).isSome = true := by
    intro i hi
    have hmem := (List.mem_filter.mp hi).1
    exact joinItem_isSome (hsound.linked.linked .itemTask (List.mem_map_of_mem hmem))
      (hsound.linked.linked .itemDevice (List.mem_map_of_mem hmem))
  set rows := failureItems lower batchId (Text.strip query) db with hrows
  set pages : ℕ → BatchFailurePage := fun n =>
    { batchId, pageSize
      batchStatus := batch.status
      total := rows.length
      page := n + 1
      pages := if rows.length = 0 then 0 else rows.length ⌈/⌉ pageSize
      items := ((rows.drop (n * pageSize)).take pageSize).map JoinedItem.row } with hpages
  have hcount : (if rows.length = 0 then 0 else rows.length ⌈/⌉ pageSize) =
      rows.length ⌈/⌉ pageSize := by
    split_ifs with hnone
    · rw [hnone, zero_ceilDiv]
    · rfl
  refine ⟨(failedItems batchId db).filterMap (joinItem db), rows, pages, map_item_joined hjoin,
    fun j => mem_joined, ?_, failureItems_sorted lower batchId _ db, fun n => ?_,
    fun n => ⟨rfl, hcount, rfl⟩, ?_⟩
  · exact (List.perm_insertionSort _ _).trans (List.reverse_perm _)
  · have hchecks : ((n + 1 : ℤ) < 1 || (pageSize : ℤ) < 1 || (100 : ℤ) < pageSize ||
        200 < query.length) = false := by
      simp only [Bool.or_eq_false_iff, decide_eq_false_iff_not]
      omega
    unfold getScanBatchFailures listBatchFailures
    rw [hchecks, if_neg Bool.false_ne_true, hfind]
    rfl
  · change ((List.range (if rows.length = 0 then 0 else rows.length ⌈/⌉ pageSize)).flatMap fun n =>
      ((rows.drop (n * pageSize)).take pageSize).map JoinedItem.row) = _
    rw [hcount, ← List.map_flatMap, Chunks.flatMap_all_pages rows hsize]

theorem failedOnce_pages :
    ∃ db, Machine.run (appStep plainBackend) {} failedOnce = some db ∧
      ∃ (joined rows : List JoinedItem) (pages : ℕ → BatchFailurePage),
        joined.map (·.item) = failedItems 1 db ∧
        rows.Perm (joined.filter (·.isFound Char.toLower (Text.strip ""))) ∧
        (∀ n : ℕ, getScanBatchFailures Char.toLower 1 (n + 1) (20 : ℕ) "" db = .ok (pages n)) ∧
        ((List.range (pages 0).pages).flatMap fun n => (pages n).items) =
          rows.map JoinedItem.row := by
  have hrun : ((Machine.run (appStep plainBackend) {} failedOnce).any fun db =>
      1 ∈ db.scanBatches.map (·.id)) = true := by decide +kernel
  obtain ⟨db, hdb, hbatch⟩ := (Option.any_eq_true _ _).mp hrun
  have hbatch : 1 ∈ db.scanBatches.map (·.id) := of_decide_eq_true hbatch
  have hquery : ("" : String).length ≤ 200 := by decide
  have hsize : 1 ≤ 20 := by decide
  obtain ⟨joined, rows, pages, hjoined, -, hrows, -, hok, -, hall⟩ :=
    failure_pages hdb Char.toLower hbatch hquery hsize (by decide)
  exact ⟨db, hdb, joined, rows, pages, hjoined, hrows, hok, hall⟩

/-- The search of failures finds every row that contains the query, up to case, unless there is a
backslash in it, and no others where it has no wildcard. -/
theorem failure_search {lower : Char → Char} (hlower : lower '%' = '%') {query : String}
    (hescape : '\\' ∉ query.toList.map lower) (j : JoinedItem) :
    ((∃ column ∈ j.columns, query.toList.map lower <:+: column.toList.map lower) →
        j.isFound lower query = true) ∧
      ('%' ∉ query.toList.map lower → '_' ∉ query.toList.map lower →
        (j.isFound lower query = true ↔
          ∃ column ∈ j.columns, query.toList.map lower <:+: column.toList.map lower)) := by
  constructor
  · rintro ⟨column, hcolumn, hinfix⟩
    unfold JoinedItem.isFound
    rw [Bool.or_eq_true, List.any_eq_true]
    exact Or.inr ⟨column, hcolumn, LikePattern.ilike_of_infix hlower hescape hinfix⟩
  · intro hpercent hone
    exact JoinedItem.isFound_iff fun _ => LikePattern.ilike_plain hlower hescape hpercent hone

theorem name_is_found :
    JoinedItem.isFound Char.toLower "WEB" ⟨⟨1, 1, 1, .failed⟩,
      { id := 1, deviceId := 1, triggerType := .batch, priority := 20, status := .failed },
      { id := 1, name := "web-01", host := "10.0.0.10" }, none⟩ = true :=
  (failure_search (by decide) (by decide) _).1 ⟨"web-01", by decide, by decide⟩

end ConnectionTopology
