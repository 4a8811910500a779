import Mathlib.Data.List.Dedup
import Mathlib.Data.List.Nodup
import Mathlib.Data.List.Sort
import Mathlib.Tactic

/-!
# Insertion-ordered dictionaries and grouping

A dictionary keeps its keys distinct by construction. The loops that build one
row by row are `collect`; the value found under a key at the end depends only on
the rows with that key, in their order. `groupBy` is the relational grouping: one
group for each key that occurs, holding the rows with that key.
-/
namespace ConnectionTopology

/-- A Python `dict`: entries in insertion order with pairwise distinct keys. -/
structure Dict (κ ν : Type*) where
  entries : List (κ × ν)
  nodup : (entries.map Prod.fst).Nodup

namespace Dict

variable {κ ν α : Type*} [DecidableEq κ]

def empty : Dict κ ν := ⟨[], List.nodup_nil⟩

def keys (d : Dict κ ν) : List κ := d.entries.map Prod.fst

def values (d : Dict κ ν) : List ν := d.entries.map Prod.snd

/-- `d.get(k)`. -/
def get? (d : Dict κ ν) (k : κ) : Option ν := (d.entries.find? (·.1 = k)).map Prod.snd

/-- Rewrite the value under `k`, or add a new entry at the end; `f` receives the
value that is there. -/
def upsert (d : Dict κ ν) (k : κ) (f : Option ν → ν) : Dict κ ν :=
  if h : k ∈ d.keys then
    ⟨d.entries.map fun e => if e.1 = k then (k, f (some e.2)) else e, by
      have hkeys : (d.entries.map fun e => if e.1 = k then (k, f (some e.2)) else e).map Prod.fst =
          d.entries.map Prod.fst := by
        rw [List.map_map]
        apply List.map_congr_left
        intro e _
        by_cases he : e.1 = k <;> simp [he]
      rw [hkeys]
      exact d.nodup⟩
  else
    ⟨d.entries ++ [(k, f none)], by
      rw [List.map_append, List.nodup_append]
      refine ⟨d.nodup, by simp, ?_⟩
      intro a ha b hb
      simp only [List.map_cons, List.map_nil, List.mem_singleton] at hb
      subst hb
      rintro rfl
      exact h ha⟩

theorem mem_entries_iff {d : Dict κ ν} {k : κ} {v : ν} :
    (k, v) ∈ d.entries ↔ d.get? k = some v := by
  obtain ⟨entries, hnd⟩ := d
  induction entries with
  | nil => simp [get?]
  | cons e es ih =>
    simp only [List.map_cons, List.nodup_cons] at hnd
    have ih := ih hnd.2
    simp only [get?] at ih ⊢
    by_cases he : e.1 = k
    · subst he
      have hnot : (e.1, v) ∉ es := fun hm => hnd.1 (List.mem_map.mpr ⟨_, hm, rfl⟩)
      simp [hnot, Prod.ext_iff, eq_comm]
    · have hne : (k, v) ≠ e := by
        rintro rfl
        exact he rfl
      simp [hne, he, ih]

theorem mem_keys_iff {d : Dict κ ν} {k : κ} : k ∈ d.keys ↔ (d.get? k).isSome := by
  rw [Option.isSome_iff_exists]
  constructor
  · intro h
    obtain ⟨⟨_, v⟩, hm, rfl⟩ := List.mem_map.mp h
    exact ⟨v, mem_entries_iff.mp hm⟩
  · rintro ⟨v, hv⟩
    exact List.mem_map.mpr ⟨(k, v), mem_entries_iff.mpr hv, rfl⟩

@[simp] theorem get?_empty (k : κ) : (empty : Dict κ ν).get? k = none := rfl

theorem find?_map_key (entries : List (κ × ν)) (k : κ) (f : ν → ν) :
    (entries.map fun e => if e.1 = k then (k, f e.2) else e).find? (·.1 = k) =
      (entries.find? (·.1 = k)).map fun e => (k, f e.2) := by
  induction entries with
  | nil => rfl
  | cons e es ih =>
    by_cases he : e.1 = k
    · simp [he]
    · simpa [he] using ih

theorem find?_map_key_ne (entries : List (κ × ν)) {k k' : κ} (hk : k' ≠ k) (f : ν → ν) :
    (entries.map fun e => if e.1 = k then (k, f e.2) else e).find? (·.1 = k') =
      entries.find? (·.1 = k') := by
  induction entries with
  | nil => rfl
  | cons e es ih =>
    by_cases he : e.1 = k
    · have h1 : ¬ e.1 = k' := fun h => hk (h.symm.trans he)
      simpa [he, h1, hk.symm] using ih
    · by_cases h2 : e.1 = k'
      · simp [h2, hk]
      · simpa [he, h2] using ih

theorem get?_upsert (d : Dict κ ν) (k k' : κ) (f : Option ν → ν) :
    (d.upsert k f).get? k' = if k' = k then some (f (d.get? k)) else d.get? k' := by
  unfold upsert
  split_ifs with hmem hk hk
  · obtain ⟨v, hv⟩ := Option.isSome_iff_exists.mp (mem_keys_iff.mp hmem)
    subst hk
    obtain ⟨e, he, hev⟩ := Option.map_eq_some_iff.mp hv
    simp only [get?, find?_map_key d.entries k' fun v => f (some v), he, Option.map_some]
  · simp only [get?, find?_map_key_ne d.entries hk fun v => f (some v)]
  · subst hk
    have hnone : d.entries.find? (·.1 = k') = none := by
      rw [List.find?_eq_none]
      intro e he
      simp only [decide_eq_true_eq]
      rintro rfl
      exact hmem (List.mem_map.mpr ⟨e, he, rfl⟩)
    simp [get?, List.find?_append, hnone]
  · have hne : ¬ k = k' := fun h => hk h.symm
    simp [get?, List.find?_append, hne]

/-- A loop that visits rows and rewrites the entry of each row's key. -/
def collect (key : α → κ) (f : Option ν → α → ν) (rows : List α) : Dict κ ν :=
  rows.foldl (fun d a => d.upsert (key a) (f · a)) empty

/-- What the visits of one key make of the value under it. -/
def folded (f : Option ν → α → ν) (start : Option ν) (rows : List α) : Option ν :=
  rows.foldl (fun v a => some (f v a)) start

theorem get?_foldl_upsert (key : α → κ) (f : Option ν → α → ν) (rows : List α) (d : Dict κ ν)
    (k : κ) :
    (rows.foldl (fun d a => d.upsert (key a) (f · a)) d).get? k =
      folded f (d.get? k) (rows.filter (key · = k)) := by
  induction rows generalizing d with
  | nil => rfl
  | cons a rows ih =>
    rw [List.foldl_cons, ih, get?_upsert]
    by_cases hk : key a = k
    · simp [hk, folded]
    · have hk' : ¬ k = key a := fun h => hk h.symm
      simp [hk, hk']

/-- The value collected under a key is the fold over the rows with that key. -/
theorem get?_collect (key : α → κ) (f : Option ν → α → ν) (rows : List α) (k : κ) :
    (collect key f rows).get? k = folded f none (rows.filter (key · = k)) :=
  get?_foldl_upsert key f rows empty k

theorem folded_some (f : Option ν → α → ν) (v : ν) (rows : List α) :
    folded f (some v) rows = some (rows.foldl (fun w a => f (some w) a) v) := by
  induction rows generalizing v with
  | nil => rfl
  | cons a rows ih => exact ih (f (some v) a)

theorem folded_cons (f : Option ν → α → ν) (a : α) (rows : List α) :
    folded f none (a :: rows) = some (rows.foldl (fun w b => f (some w) b) (f none a)) :=
  folded_some f (f none a) rows

/-- What the first visit starts and every later one carries on holds of the value at the end.
The visits are those of the rows that `g` does not skip. -/
theorem folded_induction {β : Type*} {R : List β → ν → Prop} {f : Option ν → α → ν}
    {g : β → Option α} {le : β → β → Prop} {rows : List β} (hsorted : rows.Pairwise le)
    (hone : ∀ b ∈ rows, ∀ a, g b = some a → R [b] (f none a))
    (hnext : ∀ seen v, ∀ b ∈ rows, ∀ a, g b = some a → (∀ c ∈ seen, c ∈ rows ∧ le c b) →
      R seen v → R (seen ++ [b]) (f (some v) a))
    {v : ν} (h : folded f none (rows.filterMap g) = some v) :
    R (rows.filter fun b => (g b).isSome) v := by
  generalize hvisited : (rows.filter fun b => (g b).isSome) = visited
  have hmem : ∀ b ∈ visited, b ∈ rows ∧ ∃ a, g b = some a := by
    intro b hb
    rw [← hvisited, List.mem_filter] at hb
    exact ⟨hb.1, Option.isSome_iff_exists.mp hb.2⟩
  have hpairs : visited.Pairwise le := hvisited ▸ hsorted.filter _
  have hitems : rows.filterMap g = visited.filterMap g := by
    rw [← hvisited, List.filterMap_filter]
    apply List.filterMap_congr
    intro b _
    cases g b <;> rfl
  have hloop : ∀ (rest seen : List β) (w : ν), seen ++ rest = visited → R seen w →
      R visited ((rest.filterMap g).foldl (fun v a => f (some v) a) w) := by
    intro rest
    induction rest with
    | nil =>
      intro seen w hrows hw
      rw [List.append_nil] at hrows
      exact hrows ▸ hw
    | cons b rest ih =>
      intro seen w hrows hw
      obtain ⟨hb, a, ha⟩ := hmem b (by rw [← hrows]; simp)
      rw [List.filterMap_cons_some ha]
      apply ih (seen ++ [b])
      · rw [← hrows, List.append_assoc, List.singleton_append]
      · apply hnext seen w b hb a ha _ hw
        intro c hc
        rw [← hrows] at hpairs
        exact ⟨(hmem c (by rw [← hrows]; simp [hc])).1,
          (List.pairwise_append.mp hpairs).2.2 c hc b (by simp)⟩
  rw [hitems] at h
  cases visited with
  | nil => cases h
  | cons b rest =>
    obtain ⟨hb, a, ha⟩ := hmem b (by simp)
    rw [List.filterMap_cons_some ha, folded_cons] at h
    cases h
    exact hloop rest [b] _ rfl (hone b hb a ha)

/-- `setdefault`: what was there stays, else the first row counts. -/
theorem folded_getD (start : Option α) (rows : List α) :
    folded (fun old a => old.getD a) start rows = start.or rows.head? := by
  cases rows with
  | nil => simp [folded]
  | cons a rows =>
    cases start with
    | none =>
      rw [folded_cons]
      simp
    | some v =>
      rw [folded_some]
      simp

theorem mem_keys_collect {key : α → κ} {f : Option ν → α → ν} {rows : List α} {k : κ} :
    k ∈ (collect key f rows).keys ↔ ∃ a ∈ rows, key a = k := by
  rw [mem_keys_iff, get?_collect]
  cases h : rows.filter (key · = k) with
  | nil =>
    have hnone := List.filter_eq_nil_iff.mp h
    simp only [folded, List.foldl_nil, Option.isSome_none, Bool.false_eq_true, false_iff]
    rintro ⟨a, ha, hk⟩
    exact hnone a ha (by simpa using hk)
  | cons a as =>
    have ha : a ∈ rows.filter (key · = k) := by rw [h]; simp
    rw [folded_cons]
    simp only [Option.isSome_some, true_iff]
    exact ⟨a, List.mem_of_mem_filter ha, by simpa using (List.mem_filter.mp ha).2⟩

theorem mem_keys_foldl_upsert {key : α → κ} {f : Option ν → α → ν} {rows : List α} {d : Dict κ ν}
    {k : κ} :
    k ∈ (rows.foldl (fun d a => d.upsert (key a) (f · a)) d).keys ↔
      k ∈ d.keys ∨ ∃ a ∈ rows, key a = k := by
  induction rows generalizing d with
  | nil => simp
  | cons a rows ih =>
    have hkeys : k ∈ (d.upsert (key a) (f · a)).keys ↔ k ∈ d.keys ∨ key a = k := by
      rw [mem_keys_iff, mem_keys_iff, get?_upsert]
      by_cases hk : k = key a
      · simp [hk]
      · simp [hk, Ne.symm hk]
    rw [List.foldl_cons, ih, hkeys]
    simp only [List.mem_cons, exists_eq_or_imp, or_assoc]

/-- What holds of every entry that is written holds of the whole dictionary. -/
theorem forall_foldl_upsert {key : α → κ} {f : Option ν → α → ν} {rows : List α} {d : Dict κ ν}
    {P : κ → ν → Prop} (hd : ∀ k v, d.get? k = some v → P k v)
    (hf : ∀ a ∈ rows, ∀ old, (∀ v, old = some v → P (key a) v) → P (key a) (f old a)) :
    ∀ k v, (rows.foldl (fun d a => d.upsert (key a) (f · a)) d).get? k = some v → P k v := by
  induction rows generalizing d with
  | nil => exact hd
  | cons a rows ih =>
    rw [List.foldl_cons]
    apply ih
    · intro k v hv
      rw [get?_upsert] at hv
      split_ifs at hv with hk
      · cases hv
        subst hk
        exact hf a (by simp) _ fun v hv => hd _ v hv
      · exact hd k v hv
    · exact fun b hb => hf b (by simp [hb])

theorem filter_key_eq_singleton {key : α → κ} {rows : List α} (hnodup : (rows.map key).Nodup)
    {a : α} (ha : a ∈ rows) : rows.filter (key · = key a) = [a] := by
  induction rows with
  | nil => cases ha
  | cons b rows ih =>
    simp only [List.map_cons, List.nodup_cons] at hnodup
    rcases List.mem_cons.mp ha with rfl | ha
    · have hnone : rows.filter (key · = key a) = [] := by
        rw [List.filter_eq_nil_iff]
        intro c hc hkey
        simp only [decide_eq_true_eq] at hkey
        exact hnodup.1 (List.mem_map.mpr ⟨c, hc, hkey⟩)
      simp [hnone]
    · have hne : key b ≠ key a := by
        intro h
        exact hnodup.1 (List.mem_map.mpr ⟨a, ha, h.symm⟩)
      simpa [hne] using ih hnodup.2 ha

theorem find?_key_of_mem {key : α → κ} {rows : List α} (hnodup : (rows.map key).Nodup) {a : α}
    (ha : a ∈ rows) : rows.find? (key · = key a) = some a := by
  rw [← List.head?_filter, filter_key_eq_singleton hnodup ha]
  rfl

/-- Rows with distinct keys are found under their keys. -/
theorem get?_collect_of_mem {key : α → κ} {g : α → ν} {rows : List α}
    (hnodup : (rows.map key).Nodup) {a : α} (ha : a ∈ rows) :
    (collect key (fun _ b => g b) rows).get? (key a) = some (g a) := by
  rw [get?_collect, filter_key_eq_singleton hnodup ha]
  rfl

/-- A dictionary of lists: `values[key].append(item)` for each item. -/
def appendAll (items : List (κ × ν)) : Dict κ (List ν) :=
  collect Prod.fst (fun old item => old.getD [] ++ [item.2]) items

omit [DecidableEq κ] in
theorem foldl_append_snd (items : List (κ × ν)) (start : List ν) :
    items.foldl (fun old item => old ++ [item.2]) start = start ++ items.map Prod.snd := by
  induction items generalizing start with
  | nil => simp
  | cons item items ih => simp [ih]

/-- A key holds its items in their order; there is no key without items. -/
theorem get?_appendAll (items : List (κ × ν)) (k : κ) :
    (appendAll items).get? k =
      if (items.filter (·.1 = k)) = [] then none
      else some ((items.filter (·.1 = k)).map Prod.snd) := by
  rw [appendAll, get?_collect]
  cases h : items.filter (·.1 = k) with
  | nil => rfl
  | cons item rest =>
    rw [folded_cons]
    simp only [Option.getD_some, Option.getD_none, List.nil_append, foldl_append_snd]
    simp

theorem getD_appendAll (items : List (κ × ν)) (k : κ) :
    ((appendAll items).get? k).getD [] = (items.filter (·.1 = k)).map Prod.snd := by
  rw [get?_appendAll]
  split_ifs with h
  · simp [h]
  · rfl

end Dict

namespace Grouping

variable {α κ : Type*} [DecidableEq κ]

/-- SQL `GROUP BY`: the rows of each key that occurs. -/
def groupBy (key : α → κ) (rows : List α) : List (κ × List α) :=
  (rows.map key).dedup.map fun k => (k, rows.filter (key · = k))

theorem mem_groupBy {key : α → κ} {rows : List α} {k : κ} {group : List α} :
    (k, group) ∈ groupBy key rows ↔
      (∃ a ∈ rows, key a = k) ∧ group = rows.filter (key · = k) := by
  simp only [groupBy, List.mem_map, List.mem_dedup, Prod.mk.injEq]
  constructor
  · rintro ⟨k', ⟨a, ha, rfl⟩, rfl, rfl⟩
    exact ⟨⟨a, ha, rfl⟩, rfl⟩
  · rintro ⟨⟨a, ha, rfl⟩, rfl⟩
    exact ⟨_, ⟨a, ha, rfl⟩, rfl, rfl⟩

theorem ne_nil_of_mem_groupBy {key : α → κ} {rows : List α} {k : κ} {group : List α}
    (h : (k, group) ∈ groupBy key rows) : group ≠ [] := by
  obtain ⟨⟨a, ha, hk⟩, rfl⟩ := mem_groupBy.mp h
  exact List.ne_nil_of_mem (List.mem_filter.mpr ⟨ha, by simpa using hk⟩)

theorem dedup_filter [DecidableEq α] (p : α → Bool) (l : List α) :
    (l.filter p).dedup = l.dedup.filter p := by
  induction l with
  | nil => rfl
  | cons a l ih =>
    by_cases hp : p a = true
    · by_cases hmem : a ∈ l
      · rw [List.filter_cons_of_pos hp, List.dedup_cons_of_mem hmem,
          List.dedup_cons_of_mem (List.mem_filter.mpr ⟨hmem, hp⟩), ih]
      · rw [List.filter_cons_of_pos hp, List.dedup_cons_of_notMem hmem,
          List.dedup_cons_of_notMem fun h => hmem (List.mem_of_mem_filter h),
          List.filter_cons_of_pos hp, ih]
    · rw [List.filter_cons_of_neg hp, ih]
      by_cases hmem : a ∈ l
      · rw [List.dedup_cons_of_mem hmem]
      · rw [List.dedup_cons_of_notMem hmem, List.filter_cons_of_neg hp]

/-- Rows selected by their key make up the groups with such a key. -/
theorem groupBy_filter (key : α → κ) (q : κ → Bool) (rows : List α) :
    groupBy key (rows.filter fun a => q (key a)) = (groupBy key rows).filter fun g => q g.1 := by
  have hkeys : (rows.filter fun a => q (key a)).map key = (rows.map key).filter q := by
    rw [List.filter_map]
    rfl
  unfold groupBy
  rw [hkeys, dedup_filter, List.filter_map]
  apply List.map_congr_left
  intro k hk
  have hq : q k = true := (List.mem_filter.mp hk).2
  rw [List.filter_filter]
  congr 1
  apply List.filter_congr
  intro a _
  by_cases h : key a = k
  · simp [h, hq]
  · simp [h]

end Grouping

/-! ## Restriction to some keys -/

namespace Dict

variable {κ ν α : Type*} [DecidableEq κ]

/-- The entries of a key decide its value. -/
theorem get?_congr {d d' : Dict κ ν} {k : κ}
    (h : d.entries.filter (fun e => e.1 = k) = d'.entries.filter fun e => e.1 = k) :
    d.get? k = d'.get? k := by
  unfold get?
  rw [← List.head?_filter, ← List.head?_filter, h]

theorem entries_upsert_of_not (d : Dict κ ν) {k : κ} (f : Option ν → ν) {q : κ → Bool}
    (hk : q k = false) : (d.upsert k f).entries.filter (fun e => q e.1) =
      d.entries.filter fun e => q e.1 := by
  unfold upsert
  split_ifs with hmem
  · dsimp only
    induction d.entries with
    | nil => rfl
    | cons e es ih =>
      by_cases he : e.1 = k
      · have hold : q e.1 = false := he ▸ hk
        simp [he, hk, ih]
      · by_cases hq : q e.1 = true
        · simp [he, hq, ih]
        · simp [he, hq, ih]
  · simp [hk]

theorem entries_upsert_of_pos {d d' : Dict κ ν} {k : κ} (f : Option ν → ν) {q : κ → Bool}
    (hk : q k = true) (h : d'.entries = d.entries.filter fun e => q e.1) :
    (d'.upsert k f).entries = (d.upsert k f).entries.filter fun e => q e.1 := by
  have hkeys : k ∈ d'.keys ↔ k ∈ d.keys := by
    simp only [keys, h, List.mem_map, List.mem_filter]
    constructor
    · rintro ⟨e, ⟨he, -⟩, rfl⟩
      exact ⟨e, he, rfl⟩
    · rintro ⟨e, he, rfl⟩
      exact ⟨e, ⟨he, hk⟩, rfl⟩
  unfold upsert
  by_cases hmem : k ∈ d.keys
  · rw [dif_pos hmem, dif_pos (hkeys.mpr hmem)]
    dsimp only
    rw [h, List.filter_map]
    congr 1
    apply List.filter_congr
    intro e _
    by_cases he : e.1 = k
    · simp [he]
    · simp [he]
  · rw [dif_neg hmem, dif_neg fun hd => hmem (hkeys.mp hd)]
    simp [h, hk]

/-- The rows with some keys build the part of the dictionary with these keys. -/
theorem entries_collect_filter (key : α → κ) (f : Option ν → α → ν) (q : κ → Bool)
    (rows : List α) :
    (collect key f (rows.filter fun a => q (key a))).entries =
      (collect key f rows).entries.filter fun e => q e.1 := by
  have hfold : ∀ d d' : Dict κ ν, d'.entries = d.entries.filter (fun e => q e.1) →
      ((rows.filter fun a => q (key a)).foldl (fun d a => d.upsert (key a) (f · a)) d').entries =
        (rows.foldl (fun d a => d.upsert (key a) (f · a)) d).entries.filter fun e => q e.1 := by
    induction rows with
    | nil => exact fun _ _ h => h
    | cons a rows ih =>
      intro d d' h
      by_cases hq : q (key a) = true
      · have hcons : (a :: rows).filter (fun a => q (key a)) =
            a :: rows.filter fun a => q (key a) := by simp [hq]
        rw [hcons, List.foldl_cons, List.foldl_cons]
        exact ih _ _ (entries_upsert_of_pos _ hq h)
      · have hcons : (a :: rows).filter (fun a => q (key a)) =
            rows.filter fun a => q (key a) := by simp [hq]
        rw [hcons, List.foldl_cons]
        apply ih
        rw [entries_upsert_of_not d _ (by simpa using hq), h]
  exact hfold empty empty rfl

/-! ## Changing the values -/

theorem entries_upsert_map {ν' : Type*} {d : Dict κ ν} {d' : Dict κ ν'} {k : κ} {g : ν → ν'}
    {f : Option ν → ν} {f' : Option ν' → ν'} (hf : ∀ old, f' (old.map g) = g (f old))
    (h : d'.entries = d.entries.map fun e => (e.1, g e.2)) :
    (d'.upsert k f').entries = (d.upsert k f).entries.map fun e => (e.1, g e.2) := by
  have hkeys : d'.keys = d.keys := by
    simp [keys, h, Function.comp_def]
  unfold upsert
  by_cases hmem : k ∈ d.keys
  · rw [dif_pos hmem, dif_pos (hkeys ▸ hmem)]
    simp only [h, List.map_map]
    apply List.map_congr_left
    intro e _
    by_cases he : e.1 = k
    · simpa [he] using hf (some e.2)
    · simp [he]
  · rw [dif_neg hmem, dif_neg (hkeys ▸ hmem)]
    simpa [h] using hf none

/-- A loop whose values are mapped afterwards is a loop over mapped rows. -/
theorem entries_collect_map {β ν' : Type*} {key : α → κ} {key' : β → κ} {f : Option ν → α → ν}
    {f' : Option ν' → β → ν'} {h : α → β} {g : ν → ν'} (hkey : ∀ a, key' (h a) = key a)
    (hf : ∀ old a, f' (old.map g) (h a) = g (f old a)) (rows : List α) :
    (collect key' f' (rows.map h)).entries =
      (collect key f rows).entries.map fun e => (e.1, g e.2) := by
  have hfold : ∀ (d : Dict κ ν) (d' : Dict κ ν'), d'.entries = d.entries.map (fun e => (e.1, g e.2)) →
      ((rows.map h).foldl (fun d b => d.upsert (key' b) (f' · b)) d').entries =
        (rows.foldl (fun d a => d.upsert (key a) (f · a)) d).entries.map fun e => (e.1, g e.2) := by
    induction rows with
    | nil => exact fun _ _ h => h
    | cons a rows ih =>
      intro d d' hd
      rw [List.map_cons, List.foldl_cons, List.foldl_cons, hkey]
      exact ih _ _ (entries_upsert_map (fun old => hf old a) hd)
  exact hfold empty empty rfl

/-! ## Two dictionaries with corresponding keys -/

omit [DecidableEq κ] in
theorem nodup_entries_map {ι δ : Type*} {d : Dict κ ν} {encode : κ → ι} {g : ν → δ}
    (hinj : ∀ k ∈ d.keys, ∀ l ∈ d.keys, encode k = encode l → k = l) :
    (d.entries.map fun e => (encode e.1, g e.2)).Nodup := by
  apply List.Nodup.of_map Prod.fst
  have hfst : (d.entries.map fun e => (encode e.1, g e.2)).map Prod.fst = d.keys.map encode := by
    simp [keys, Function.comp_def]
  rw [hfst]
  exact d.nodup.map_on fun k hk l hl h => hinj k hk l hl h

/-- Dictionaries whose keys correspond and whose values agree have the same values, each as
often. -/
theorem perm_map_values {ι ν' δ : Type*} [DecidableEq ι] {d : Dict κ ν} {d' : Dict ι ν'}
    (encode : κ → ι) (g : ν → δ) (g' : ν' → δ)
    (hinj : ∀ k ∈ d.keys, ∀ l ∈ d.keys, encode k = encode l → k = l)
    (hkeys : ∀ k', k' ∈ d'.keys ↔ ∃ k ∈ d.keys, encode k = k')
    (hvalues : ∀ k v v', d.get? k = some v → d'.get? (encode k) = some v' → g v = g' v') :
    (d.entries.map fun e => g e.2).Perm (d'.entries.map fun e => g' e.2) := by
  have hpairs : (d.entries.map fun e => (encode e.1, g e.2)).Perm
      (d'.entries.map fun e => (e.1, g' e.2)) := by
    apply (List.perm_ext_iff_of_nodup (nodup_entries_map hinj)
      (@nodup_entries_map _ _ _ _ d' (fun k => k) g' fun _ _ _ _ h => h)).mpr
    rintro ⟨k', x⟩
    simp only [List.mem_map, Prod.mk.injEq, Prod.exists]
    constructor
    · rintro ⟨k, v, hentry, rfl, rfl⟩
      have hget := mem_entries_iff.mp hentry
      have hk' : encode k ∈ d'.keys :=
        (hkeys _).mpr ⟨k, mem_keys_iff.mpr (by rw [hget]; rfl), rfl⟩
      obtain ⟨v', hv'⟩ := Option.isSome_iff_exists.mp (mem_keys_iff.mp hk')
      exact ⟨encode k, v', mem_entries_iff.mpr hv', rfl, (hvalues k v v' hget hv').symm⟩
    · rintro ⟨k, v', hentry, rfl, rfl⟩
      have hget' := mem_entries_iff.mp hentry
      obtain ⟨k₀, hk₀, rfl⟩ := (hkeys k).mp (mem_keys_iff.mpr (by rw [hget']; rfl))
      obtain ⟨v, hv⟩ := Option.isSome_iff_exists.mp (mem_keys_iff.mp hk₀)
      exact ⟨k₀, v, mem_entries_iff.mpr hv, rfl, hvalues k₀ v v' hv hget'⟩
  simpa [Function.comp_def] using hpairs.map Prod.snd

end Dict

section Sorting

variable {α : Type*} {r : α → α → Prop} [DecidableRel r] [Std.Total r] [IsTrans α r]

omit [Std.Total r] in
theorem filter_orderedInsert (p : α → Bool) (a : α) {l : List α} (hl : l.Pairwise r) :
    (l.orderedInsert r a).filter p =
      if p a then (l.filter p).orderedInsert r a else l.filter p := by
  induction l with
  | nil => cases hp : p a <;> simp [hp]
  | cons b l ih =>
    obtain ⟨hb, hl⟩ := List.pairwise_cons.mp hl
    by_cases hab : r a b
    · rw [List.orderedInsert, if_pos hab]
      -- everything after `b` is above `a` as well
      have hhead : ∀ m : List α, (∀ c ∈ m, r a c) → m.orderedInsert r a = a :: m := by
        intro m hm
        cases m with
        | nil => rfl
        | cons c m => exact if_pos (hm c (by simp))
      have hall : ∀ c ∈ (b :: l).filter p, r a c := by
        intro c hc
        rcases List.mem_cons.mp (List.mem_of_mem_filter hc) with rfl | hc
        · exact hab
        · exact IsTrans.trans _ _ _ hab (hb c hc)
      rw [hhead _ hall]
      cases hp : p a <;> simp [hp]
    · rw [List.orderedInsert_of_not_le _ _ hab]
      cases hp : p b
      · rw [List.filter_cons_of_neg (by simp [hp]), List.filter_cons_of_neg (by simp [hp]), ih hl]
      · rw [List.filter_cons_of_pos hp, List.filter_cons_of_pos hp, ih hl,
          List.orderedInsert_of_not_le _ _ hab]
        split_ifs <;> rfl

/-- Sorting is stable, so it commutes with filtering. -/
theorem filter_insertionSort (p : α → Bool) (l : List α) :
    (l.insertionSort r).filter p = (l.filter p).insertionSort r := by
  induction l with
  | nil => rfl
  | cons a l ih =>
    rw [List.insertionSort_cons, filter_orderedInsert p a (List.pairwise_insertionSort r l), ih]
    cases hp : p a
    · rw [List.filter_cons_of_neg (by simp [hp])]
      rfl
    · rw [List.filter_cons_of_pos hp]
      rfl

end Sorting

end ConnectionTopology
