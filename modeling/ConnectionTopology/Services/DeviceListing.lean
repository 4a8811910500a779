import ConnectionTopology.Library.Chunks
import ConnectionTopology.Library.LikePattern
import ConnectionTopology.Library.Text
import ConnectionTopology.Models
import Mathlib.Data.Finset.Sort

/-!
# The list of devices

`device_listing.py`: a search over names and hosts, cut into pages, and the page numbers shown
below it. The count and the page are read at one moment.
-/
namespace ConnectionTopology

def allowedPageSizes : List ℤ := [20, 50, 100]

structure DevicePage where
  items : List Device
  query : String
  page : ℕ
  pageSize : ℕ
  totalItems : ℕ
  totalPages : ℕ
  firstItem : ℕ
  lastItem : ℕ
  /-- Page numbers, and nothing where some are skipped. -/
  pageLinks : List (Option ℕ)
  deriving DecidableEq, Repr

/-- The `ValueError`s of `list_device_page`. -/
inductive ListingError
  | page
  | pageSize
  deriving DecidableEq, Repr

def ListingError.message : ListingError → String
  | .page => "页码必须大于等于 1"
  | .pageSize => "每页数量仅支持 20、50、100"

/-! ## Page numbers -/

/-- The loop over the visible pages; no page is 0. -/
def withGaps : ℕ → List ℕ → List (Option ℕ)
  | _, [] => []
  | previous, current :: rest =>
    if previous ≠ 0 ∧ 1 < current - previous then none :: some current :: withGaps current rest
    else some current :: withGaps current rest

def visiblePages (page totalPages : ℕ) : Finset ℕ :=
  insert 1 (insert totalPages (Finset.Icc (max 2 (page - 2)) (min totalPages (page + 2))))

def buildPageLinks (page totalPages : ℕ) : List (Option ℕ) :=
  if totalPages ≤ 7 then (List.range' 1 totalPages).map some
  else withGaps 0 (visiblePages page totalPages).sort

/-- The pages that the links lead to. -/
def linkedPages (links : List (Option ℕ)) : List ℕ := links.filterMap id

theorem linkedPages_withGaps (previous : ℕ) (pages : List ℕ) :
    linkedPages (withGaps previous pages) = pages := by
  induction pages generalizing previous with
  | nil => rfl
  | cons current rest ih =>
    have hrest : linkedPages (some current :: withGaps current rest) = current :: rest :=
      congrArg (current :: ·) (ih current)
    unfold withGaps
    split_ifs
    · exact hrest
    · exact hrest

/-- Page numbers next to each other follow one another, and no two gaps do. -/
def Consecutive : Option ℕ → Option ℕ → Prop
  | some previous, some current => current = previous + 1
  | none, none => False
  | _, _ => True

theorem withGaps_consecutive {previous : ℕ} {pages : List ℕ} (hprevious : previous ≠ 0)
    (hsorted : (previous :: pages).Pairwise (· < ·)) :
    List.IsChain Consecutive (some previous :: withGaps previous pages) := by
  induction pages generalizing previous with
  | nil => exact List.isChain_singleton _
  | cons current rest ih =>
    obtain ⟨hfirst, hrest⟩ := List.pairwise_cons.mp hsorted
    have hlt : previous < current := hfirst current List.mem_cons_self
    have hchain := ih (by omega) hrest
    unfold withGaps
    split_ifs with hgap
    · exact List.isChain_cons_cons.mpr ⟨trivial, List.isChain_cons_cons.mpr ⟨trivial, hchain⟩⟩
    · have hnext : current = previous + 1 := by omega
      exact List.isChain_cons_cons.mpr ⟨hnext, hchain⟩

/-- Page 1 is the first link. -/
theorem sort_visiblePages {page totalPages : ℕ} (htotal : 7 < totalPages) :
    (visiblePages page totalPages).sort =
      1 :: (insert totalPages (Finset.Icc (max 2 (page - 2)) (min totalPages (page + 2)))).sort := by
  unfold visiblePages
  apply Finset.sort_insert
  · intro n hn
    rw [Finset.mem_insert, Finset.mem_Icc] at hn
    omega
  · rw [Finset.mem_insert, Finset.mem_Icc]
    omega

/-- The links lead to the first page, the last one and two on each side, or to all where these are
few, and the reader sees where pages are skipped. -/
theorem buildPageLinks_spec {page totalPages : ℕ} (hpage : 1 ≤ page) (htotal : page ≤ totalPages) :
    (linkedPages (buildPageLinks page totalPages)).Pairwise (· < ·) ∧
      (∀ n, n ∈ linkedPages (buildPageLinks page totalPages) ↔ 1 ≤ n ∧ n ≤ totalPages ∧
        (totalPages ≤ 7 ∨ n = 1 ∨ n = totalPages ∨ page ≤ n + 2 ∧ n ≤ page + 2)) ∧
      List.IsChain Consecutive (buildPageLinks page totalPages) ∧
      (buildPageLinks page totalPages).head? = some (some 1) := by
  unfold buildPageLinks
  split_ifs with hfew
  · have hpages : linkedPages ((List.range' 1 totalPages).map some) = List.range' 1 totalPages := by
      rw [linkedPages, List.filterMap_map]
      exact List.filterMap_some
    rw [hpages]
    refine ⟨List.pairwise_lt_range', fun n => ?_, ?_, ?_⟩
    · rw [List.mem_range'_1]
      omega
    · rw [List.isChain_map]
      exact List.isChain_range' 1 totalPages 1
    · obtain ⟨n, rfl⟩ := Nat.exists_eq_add_of_le' (hpage.trans htotal)
      rfl
  · have hmany : 7 < totalPages := not_le.mp hfew
    have hsorted : (visiblePages page totalPages).sort.Pairwise (· < ·) :=
      (Finset.sortedLT_sort _).pairwise
    rw [linkedPages_withGaps]
    refine ⟨hsorted, fun n => ?_, ?_, ?_⟩
    · rw [Finset.mem_sort, visiblePages, Finset.mem_insert, Finset.mem_insert, Finset.mem_Icc]
      omega
    · rw [sort_visiblePages hmany] at hsorted ⊢
      exact withGaps_consecutive one_ne_zero hsorted
    · rw [sort_visiblePages hmany]
      rfl

/-! ## Pages -/

/-- `column.contains(text, autoescape=True)`, whose escape is `/`. -/
def contains (column text : String) : Bool :=
  LikePattern.like '/' (LikePattern.anywhere (LikePattern.escaped '/' text.toList)) column.toList

/-- The filters of a search that has been stripped. -/
def Device.isListed (query : String) (d : Device) : Bool :=
  query = "" || contains d.name query || contains d.host query

/-- `ORDER BY name, id` in the order of the database. -/
def Device.listedBefore (collation : LinearOrder String) (a b : Device) : Prop :=
  collation.lt a.name b.name ∨ a.name = b.name ∧ a.id ≤ b.id

instance (collation : LinearOrder String) : DecidableRel (Device.listedBefore collation) :=
  fun a b =>
    have := collation.toDecidableLT a.name b.name
    inferInstanceAs (Decidable (_ ∨ _))

def listedDevices (collation : LinearOrder String) (query : String) (db : Database) : List Device :=
  (db.devices.filter (·.isListed query)).insertionSort (Device.listedBefore collation)

/-- `list_device_page` behind its checks. -/
def devicePage (collation : LinearOrder String) (query : String) (page size : ℕ) (db : Database) :
    DevicePage :=
  let rows := listedDevices collation query db
  let totalItems := db.devices.countP (·.isListed query)
  let totalPages := if totalItems = 0 then 0 else totalItems ⌈/⌉ size
  let resolvedPage := if totalPages = 0 then 1 else min page totalPages
  let items := (rows.drop ((resolvedPage - 1) * size)).take size
  let firstItem := if items = [] then 0 else (resolvedPage - 1) * size + 1
  { items, query, totalItems, totalPages, firstItem
    page := resolvedPage
    pageSize := size
    lastItem := if items = [] then 0 else firstItem + items.length - 1
    pageLinks := buildPageLinks resolvedPage totalPages }

def listDevicePage (collation : LinearOrder String) (query : String) (page pageSize : ℤ)
    (db : Database) : Except ListingError DevicePage :=
  if page < 1 then .error .page
  else if pageSize ∉ allowedPageSizes then .error .pageSize
  else .ok (devicePage collation (Text.strip query) page.toNat pageSize.toNat db)

variable {collation : LinearOrder String} {query : String} {page size : ℕ} {db : Database}

/-- The search takes no character for a wildcard. -/
theorem Device.isListed_iff {d : Device} :
    d.isListed query = true ↔
      query.toList <:+: d.name.toList ∨ query.toList <:+: d.host.toList := by
  have hescape : ('/' : Char) ≠ '%' := by decide
  unfold Device.isListed contains
  rw [Bool.or_eq_true, Bool.or_eq_true, decide_eq_true_eq, LikePattern.like_escaped hescape,
    LikePattern.like_escaped hescape]
  constructor
  · rintro ((rfl | hname) | hhost)
    · exact Or.inl (List.nil_infix)
    · exact Or.inl hname
    · exact Or.inr hhost
  · rintro (hname | hhost)
    · exact Or.inl (Or.inr hname)
    · exact Or.inr hhost

theorem Device.listedBefore_trans {a b c : Device} (hab : a.listedBefore collation b)
    (hbc : b.listedBefore collation c) : a.listedBefore collation c := by
  rcases hab with hab | ⟨hab, hidab⟩
  · rcases hbc with hbc | ⟨hbc, -⟩
    · exact Or.inl (@lt_trans String collation.toPreorder _ _ _ hab hbc)
    · exact Or.inl (hbc ▸ hab)
  · rcases hbc with hbc | ⟨hbc, hidbc⟩
    · exact Or.inl (hab ▸ hbc)
    · exact Or.inr ⟨hab.trans hbc, hidab.trans hidbc⟩

theorem Device.listedBefore_total (a b : Device) :
    a.listedBefore collation b ∨ b.listedBefore collation a := by
  rcases @lt_trichotomy _ collation a.name b.name with h | h | h
  · exact Or.inl (Or.inl h)
  · rcases le_total a.id b.id with hid | hid
    · exact Or.inl (Or.inr ⟨h, hid⟩)
    · exact Or.inr (Or.inr ⟨h.symm, hid⟩)
  · exact Or.inr (Or.inl h)

theorem listedDevices_sorted (collation : LinearOrder String) (query : String) (db : Database) :
    (listedDevices collation query db).Pairwise (Device.listedBefore collation) := by
  have htotal : Std.Total (Device.listedBefore collation) := ⟨Device.listedBefore_total⟩
  have htrans : IsTrans Device (Device.listedBefore collation) :=
    ⟨fun _ _ _ => Device.listedBefore_trans⟩
  exact List.pairwise_insertionSort _ _

theorem mem_listedDevices {d : Device} :
    d ∈ listedDevices collation query db ↔ d ∈ db.devices ∧
      (query.toList <:+: d.name.toList ∨ query.toList <:+: d.host.toList) := by
  rw [listedDevices, List.mem_insertionSort, List.mem_filter, Device.isListed_iff]

theorem length_listedDevices :
    (listedDevices collation query db).length = db.devices.countP (·.isListed query) := by
  rw [listedDevices, List.length_insertionSort, List.countP_eq_length_filter]

theorem devicePage_totalPages : (devicePage collation query page size db).totalPages =
    (listedDevices collation query db).length ⌈/⌉ size := by
  unfold devicePage
  dsimp only
  rw [length_listedDevices]
  split_ifs with hnone
  · rw [hnone, zero_ceilDiv]
  · rfl

/-- The page that is shown in place of the one that was asked for. -/
theorem devicePage_page : (devicePage collation query page size db).page =
    if (listedDevices collation query db).length ⌈/⌉ size = 0 then 1
    else min page ((listedDevices collation query db).length ⌈/⌉ size) := by
  rw [← @devicePage_totalPages collation query page size db]
  rfl

/-- A page that is there. -/
theorem devicePage_of_lt (hsize : 0 < size) {n : ℕ}
    (hn : n < (listedDevices collation query db).length ⌈/⌉ size) :
    let shown := devicePage collation query (n + 1) size db
    shown.page = n + 1 ∧ shown.items = ((listedDevices collation query db).drop (n * size)).take size ∧
      shown.items ≠ [] ∧ shown.firstItem = n * size + 1 ∧
      shown.lastItem = min ((n + 1) * size) (listedDevices collation query db).length := by
  intro shown
  have hpage : shown.page = n + 1 := by
    rw [devicePage_page, if_neg (by omega), min_eq_left hn]
  have hitems : shown.items =
      ((listedDevices collation query db).drop (n * size)).take size := by
    have hitems : shown.items =
      ((listedDevices collation query db).drop ((shown.page - 1) * size)).take size := rfl
    rw [hitems, hpage, Nat.add_sub_cancel]
  have hlt : n * size < (listedDevices collation query db).length := by
    rw [mul_comm]
    exact (Chunks.lt_ceilDiv_iff hsize).mp hn
  have hlength : shown.items.length =
      min size ((listedDevices collation query db).length - n * size) := by
    rw [hitems, List.length_take, List.length_drop]
  have hsome : shown.items ≠ [] := by
    rw [← List.length_pos_iff, hlength]
    omega
  have hfirst : shown.firstItem = n * size + 1 := by
    have hfirst : shown.firstItem = if shown.items = [] then 0 else (shown.page - 1) * size + 1 := rfl
    rw [hfirst, if_neg hsome, hpage, Nat.add_sub_cancel]
  have hlast : shown.lastItem =
      if shown.items = [] then 0 else shown.firstItem + shown.items.length - 1 := rfl
  refine ⟨hpage, hitems, hsome, hfirst, ?_⟩
  rw [hlast, if_neg hsome, hfirst, hlength, Nat.succ_mul]
  omega

/-- Only the page that is shown counts, not the one that was asked for. -/
theorem devicePage_congr {page' : ℕ} (h : (devicePage collation query page size db).page =
    (devicePage collation query page' size db).page) :
    devicePage collation query page size db = devicePage collation query page' size db := by
  unfold devicePage at h ⊢
  dsimp only at h ⊢
  rw [h]

/-- Behind the last page there is the last page again. -/
theorem devicePage_of_le {n : ℕ}
    (hn : (listedDevices collation query db).length ⌈/⌉ size ≤ n) :
    devicePage collation query (n + 1) size db = devicePage collation query
      ((listedDevices collation query db).length ⌈/⌉ size - 1 + 1) size db := by
  apply devicePage_congr
  rw [devicePage_page, devicePage_page]
  split_ifs
  · rfl
  · omega

end ConnectionTopology
