import Mathlib.Tactic

/-!
# Keys and foreign keys

What a relational schema sees of its tables: the keys of each table, the next key of its
sequence, and the references of each foreign key that are not null. A transaction that inserts
and rewrites rows lets the content grow, one that deletes rows lets it shrink; both keep every
reference alive under a condition on the references alone.
-/
namespace ConnectionTopology.ForeignKeys

/-- The keys and references of a database with tables `τ` and foreign keys `φ`. -/
structure Content (τ φ : Type*) where
  keys : τ → List ℕ
  next : τ → ℕ
  refs : φ → List ℕ

variable {τ φ : Type*} {target : φ → τ} {c c' c'' : Content τ φ}

/-- Keys are distinct and drawn from the sequence of their table, and no reference dangles. -/
structure Linked (target : φ → τ) (c : Content τ φ) : Prop where
  distinct : ∀ t, (c.keys t).Nodup
  drawn : ∀ t, ∀ k ∈ c.keys t, k < c.next t
  linked : ∀ f, c.refs f ⊆ c.keys (target f)

/-- Rows are inserted under keys of the sequence or rewritten, and every reference is an old one
or one to a row that is there. -/
structure Grows (target : φ → τ) (c c' : Content τ φ) : Prop where
  keys : ∀ t, ∃ new, c'.keys t = c.keys t ++ new ∧ new.Nodup ∧
    ∀ k ∈ new, c.next t ≤ k ∧ k < c'.next t
  next : ∀ t, c.next t ≤ c'.next t
  refs : ∀ f, c'.refs f ⊆ c.refs f ++ c'.keys (target f)

/-- Rows are deleted, and no row that stays goes on to refer to one of them. -/
structure Shrinks (target : φ → τ) (c c' : Content τ φ) : Prop where
  keys : ∀ t, (c'.keys t).Sublist (c.keys t)
  next : ∀ t, c.next t ≤ c'.next t
  refs : ∀ f, ∀ k ∈ c'.refs f, k ∈ c.refs f ∧ (k ∈ c.keys (target f) → k ∈ c'.keys (target f))

/-- Rewriting rows in place keeps all keys. -/
theorem Grows.of_same (hkeys : ∀ t, c'.keys t = c.keys t) (hnext : ∀ t, c.next t ≤ c'.next t)
    (hrefs : ∀ f, c'.refs f ⊆ c.refs f ++ c'.keys (target f)) : Grows target c c' where
  keys := fun t => ⟨[], by simp [hkeys t]⟩
  next := hnext
  refs := hrefs

theorem Grows.of_eq (hkeys : ∀ t, c'.keys t = c.keys t) (hnext : ∀ t, c.next t ≤ c'.next t)
    (hrefs : ∀ f, c'.refs f = c.refs f) : Grows target c c' :=
  .of_same hkeys hnext fun f _ hk => List.mem_append_left _ (hrefs f ▸ hk)

theorem Grows.refl (c : Content τ φ) : Grows target c c :=
  .of_eq (fun _ => rfl) (fun _ => le_rfl) fun _ => rfl

theorem Grows.subset (h : Grows target c c') (t : τ) : c.keys t ⊆ c'.keys t := by
  obtain ⟨new, hnew, -⟩ := h.keys t
  rw [hnew]
  exact List.subset_append_left _ _

theorem Grows.trans (h : Grows target c c') (h' : Grows target c' c'') : Grows target c c'' := by
  constructor
  · intro t
    obtain ⟨first, hfirst, hdistinct, hdrawn⟩ := h.keys t
    obtain ⟨second, hsecond, hdistinct', hdrawn'⟩ := h'.keys t
    refine ⟨first ++ second, by rw [hsecond, hfirst, List.append_assoc], ?_, ?_⟩
    · rw [List.nodup_append']
      refine ⟨hdistinct, hdistinct', fun k hk hk' => ?_⟩
      have hlt := (hdrawn k hk).2
      have hge := (hdrawn' k hk').1
      omega
    · intro k hk
      have hnext := h.next t
      have hnext' := h'.next t
      rcases List.mem_append.mp hk with hk | hk
      · have hbounds := hdrawn k hk
        omega
      · have hbounds := hdrawn' k hk
        omega
  · exact fun t => (h.next t).trans (h'.next t)
  · intro f k hk
    rw [List.mem_append]
    rcases List.mem_append.mp (h'.refs f hk) with hk | hk
    · exact (List.mem_append.mp (h.refs f hk)).imp_right fun hkey => h'.subset _ hkey
    · exact Or.inr hk

theorem Linked.grows (h : Linked target c) (hgrows : Grows target c c') : Linked target c' := by
  constructor
  · intro t
    obtain ⟨new, hnew, hdistinct, hdrawn⟩ := hgrows.keys t
    rw [hnew, List.nodup_append']
    refine ⟨h.distinct t, hdistinct, fun k hk hk' => ?_⟩
    have hlt := h.drawn t k hk
    have hge := (hdrawn k hk').1
    omega
  · intro t k hk
    obtain ⟨new, hnew, -, hdrawn⟩ := hgrows.keys t
    rw [hnew] at hk
    rcases List.mem_append.mp hk with hk | hk
    · exact (h.drawn t k hk).trans_le (hgrows.next t)
    · exact (hdrawn k hk).2
  · intro f k hk
    rcases List.mem_append.mp (hgrows.refs f hk) with hold | hnew
    · exact hgrows.subset _ (h.linked f hold)
    · exact hnew

theorem Linked.shrinks (h : Linked target c) (hshrinks : Shrinks target c c') : Linked target c' := by
  constructor
  · exact fun t => (h.distinct t).sublist (hshrinks.keys t)
  · exact fun t k hk => (h.drawn t k ((hshrinks.keys t).subset hk)).trans_le (hshrinks.next t)
  · intro f k hk
    obtain ⟨hold, hstays⟩ := hshrinks.refs f k hk
    exact hstays (h.linked f hold)

/-! ## Lists of rows -/

section
variable {α β : Type*} {p : α → Prop} [DecidablePred p] {f : α → α}

/-- A column that the rewriting of some rows keeps. -/
theorem map_update {column : α → β} (hf : ∀ a, column (f a) = column a) (rows : List α) :
    (rows.map fun a => if p a then f a else a).map column = rows.map column := by
  rw [List.map_map]
  apply List.map_congr_left
  intro a _
  simp only [Function.comp_apply]
  split_ifs
  · exact hf a
  · rfl

theorem filterMap_update {column : α → Option β} (hf : ∀ a, column (f a) = column a)
    (rows : List α) :
    (rows.map fun a => if p a then f a else a).filterMap column = rows.filterMap column := by
  rw [List.filterMap_map]
  apply List.filterMap_congr
  intro a _
  simp only [Function.comp_apply]
  split_ifs
  · exact hf a
  · rfl

/-- A column of a table with one new row. -/
theorem mem_map_insert {column : α → β} {rows : List α} {row : α} {k : β}
    (h : k ∈ (rows ++ [row]).map column) : k ∈ rows.map column ∨ column row = k := by
  rw [List.map_append] at h
  exact (List.mem_append.mp h).imp_right fun hnew => (List.mem_singleton.mp hnew).symm

theorem mem_filterMap_insert {column : α → Option β} {rows : List α} {row : α} {k : β}
    (h : k ∈ (rows ++ [row]).filterMap column) : k ∈ rows.filterMap column ∨ column row = some k := by
  rw [List.filterMap_append] at h
  refine (List.mem_append.mp h).imp_right fun hnew => ?_
  obtain ⟨a, ha, hcolumn⟩ := List.mem_filterMap.mp hnew
  rwa [List.mem_singleton.mp ha] at hcolumn

/-- A parent that stays is found among the parents that stay. -/
theorem mem_map_filter {key : α → ℕ} {rows : List α} {k : ℕ} (hk : k ∈ rows.map key)
    (hp : ∀ a ∈ rows, key a = k → p a) : k ∈ (rows.filter (p ·)).map key := by
  obtain ⟨a, ha, rfl⟩ := List.mem_map.mp hk
  exact List.mem_map_of_mem (List.mem_filter.mpr ⟨ha, decide_eq_true (hp a ha rfl)⟩)

/-- A unique column stays unique when one row takes a value that no other row has. -/
theorem nodup_map_update {ι κ : Type*} [DecidableEq ι] {ident : α → ι} {key : α → κ} {i : ι}
    {rows : List α} (hids : (rows.map ident).Nodup) (h : (rows.map key).Nodup)
    (hnew : ∀ a ∈ rows, ident a = i → ∀ b ∈ rows, ident b ≠ i → key b ≠ key (f a)) :
    ((rows.map fun a => if ident a = i then f a else a).map key).Nodup := by
  induction rows with
  | nil => exact List.nodup_nil
  | cons a rest ih =>
    simp only [List.map_cons, List.nodup_cons, List.mem_map, not_exists, not_and] at hids h ⊢
    constructor
    · rintro b' ⟨b, hb, rfl⟩
      have hother := hids.1 b hb
      by_cases ha : ident a = i
      · rw [if_pos ha, if_neg (ha ▸ hother)]
        exact hnew a List.mem_cons_self ha b (List.mem_cons_of_mem _ hb) (ha ▸ hother)
      · rw [if_neg ha]
        by_cases hbi : ident b = i
        · rw [if_pos hbi]
          exact (hnew b (List.mem_cons_of_mem _ hb) hbi a List.mem_cons_self ha).symm
        · rw [if_neg hbi]
          exact h.1 b hb
    · apply ih hids.2 h.2
      exact fun c hc hci d hd => hnew c (List.mem_cons_of_mem _ hc) hci d (List.mem_cons_of_mem _ hd)

end

end ConnectionTopology.ForeignKeys
