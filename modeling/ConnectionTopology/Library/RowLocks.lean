import ConnectionTopology.Library.Machine

/-!
# Row locks of concurrent transactions

Transactions lock rows of a table by their keys and hold the locks until they end. A row can
only be changed by the transaction that has locked it, so what a transaction has once seen
of a locked row stays true until it commits. The rows, the transactions and what each knows
of its rows are parameters.
-/
namespace ConnectionTopology.RowLocks

variable {ρ τ : Type*} (key : ρ → ℕ) (locked : τ → List ℕ)

/-- A transaction other than the `n`-th one has locked the row. -/
def lockedByOther (txs : List τ) (n row : ℕ) : Bool :=
  txs.zipIdx.any fun tx => tx.2 ≠ n && row ∈ locked tx.1

/-- Rows change in place or go away, only locked ones change, and each as `R` says. -/
def Change (held : List ℕ) (R : ρ → ρ → Prop) (before after : List ρ) : Prop :=
  ∃ f : ρ → ρ, after.Sublist (before.map f) ∧
    ∀ r ∈ before, key (f r) = key r ∧ R r (f r) ∧ (key r ∉ held → f r = r)

/-- Keys are unique, no row is locked twice, and every transaction knows its rows. -/
structure Inv (ok : τ → ρ → Prop) (rows : List ρ) (txs : List τ) : Prop where
  keys : (rows.map key).Nodup
  disjoint : ∀ (n m : ℕ) (tx tx' : τ), n ≠ m → txs[n]? = some tx → txs[m]? = some tx' →
    ∀ row ∈ locked tx, row ∉ locked tx'
  knows : ∀ tx ∈ txs, ∀ r ∈ rows, key r ∈ locked tx → ok tx r

variable {key locked} {held : List ℕ} {R : ρ → ρ → Prop} {before after rows rows' : List ρ}
  {txs : List τ} {ok : τ → ρ → Prop}

theorem lockedByOther_eq_false {n row : ℕ} : lockedByOther locked txs n row = false ↔
    ∀ (m : ℕ) (tx : τ), m ≠ n → txs[m]? = some tx → row ∉ locked tx := by
  unfold lockedByOther
  rw [List.any_eq_false]
  constructor
  · intro h m tx hmn hm hlocked
    have hmem : (tx, m) ∈ txs.zipIdx := List.mem_zipIdx_iff_getElem?.mpr hm
    exact h _ hmem (by simp [hmn, hlocked])
  · rintro h ⟨tx, m⟩ hmem
    have hm : txs[m]? = some tx := List.mem_zipIdx_iff_getElem?.mp hmem
    by_cases hmn : m = n
    · simp [hmn]
    · simp [hmn, h m tx hmn hm]

/-! ## Changes -/

theorem Change.refl (hR : ∀ r, R r r) : Change key held R rows rows :=
  ⟨id, by simp, fun r _ => ⟨rfl, hR r, fun _ => rfl⟩⟩

theorem Change.filter (h : Change key held R before after) (keep : ρ → Bool) :
    Change key held R before (after.filter keep) := by
  obtain ⟨f, hsub, hf⟩ := h
  exact ⟨f, List.filter_sublist.trans hsub, hf⟩

/-- A row after the change and the row that it was before. -/
theorem Change.mem (h : Change key held R before after) {r : ρ} (hr : r ∈ after) :
    ∃ old ∈ before, key old = key r ∧ R old r ∧ (key r ∉ held → r = old) := by
  obtain ⟨f, hsub, hf⟩ := h
  obtain ⟨old, hold, rfl⟩ := List.mem_map.mp (hsub.subset hr)
  obtain ⟨hkey, hchange, hsame⟩ := hf old hold
  exact ⟨old, hold, hkey.symm, hchange, fun hfree => hsame (hkey ▸ hfree)⟩

theorem Change.nodup (h : Change key held R before after) (hkeys : (before.map key).Nodup) :
    (after.map key).Nodup := by
  obtain ⟨f, hsub, hf⟩ := h
  have hmap : (before.map f).map key = before.map key := by
    rw [List.map_map]
    exact List.map_congr_left fun r hr => (hf r hr).1
  have hsubkeys := hsub.map key
  rw [hmap] at hsubkeys
  exact hsubkeys.nodup hkeys

/-! ## The invariant -/

theorem Inv.unique (h : Inv key locked ok rows txs) {r r' : ρ} (hr : r ∈ rows) (hr' : r' ∈ rows)
    (hkey : key r = key r') : r = r' :=
  List.inj_on_of_nodup_map h.keys hr hr' hkey

theorem Inv.init (hkeys : (rows.map key).Nodup) : Inv key locked ok rows ([] : List τ) := by
  constructor
  case keys => exact hkeys
  case disjoint => simp
  case knows => exact fun _ htx => absurd htx List.not_mem_nil

/-- Transaction `n` moves on and changes only rows that it had locked. -/
theorem Inv.finish (h : Inv key locked ok rows txs) {n : ℕ} {old tx : τ} (hn : txs[n]? = some old)
    (hchange : Change key (locked old) R rows rows')
    (hlocks : ∀ row ∈ locked tx, row ∈ locked old ∨ lockedByOther locked txs n row = false)
    (hknows : ∀ r ∈ rows', key r ∈ locked tx → ok tx r) :
    Inv key locked ok rows' (txs.set n tx) := by
  -- a row that the transaction holds now is locked by nobody else
  have hown : ∀ row ∈ locked tx, ∀ (m : ℕ) (tx' : τ), m ≠ n → txs[m]? = some tx' →
      row ∉ locked tx' := by
    intro row hrow m tx' hmn hm
    rcases hlocks row hrow with hold | hfree
    · exact h.disjoint n m old tx' (Ne.symm hmn) hn hm row hold
    · exact lockedByOther_eq_false.mp hfree m tx' hmn hm
  constructor
  case keys => exact hchange.nodup h.keys
  case disjoint =>
    intro m k tx₁ tx₂ hmk hm hk row hrow₁ hrow₂
    rcases Machine.getElem?_set_cases hm with ⟨rfl, rfl⟩ | ⟨hmn, hm'⟩ <;>
      rcases Machine.getElem?_set_cases hk with ⟨rfl, rfl⟩ | ⟨hkn, hk'⟩
    · exact hmk rfl
    · exact hown row hrow₁ k tx₂ hkn hk' hrow₂
    · exact hown row hrow₂ m tx₁ hmn hm' hrow₁
    · exact h.disjoint m k tx₁ tx₂ hmk hm' hk' row hrow₁ hrow₂
  case knows =>
    intro tx' htx' r hr hlocked
    rcases Machine.mem_set_cases htx' with rfl | ⟨m, hmn, hm⟩
    · exact hknows r hr hlocked
    · obtain ⟨row, hrow, -, -, hsame⟩ := hchange.mem hr
      have hfree : key r ∉ locked old := fun hmine =>
        h.disjoint n m old tx' (Ne.symm hmn) hn hm (key r) hmine hlocked
      obtain rfl := hsame hfree
      exact h.knows tx' (List.mem_of_getElem? hm) r hrow hlocked

/-- A transaction that ends gives its locks back. -/
theorem Inv.leave (h : Inv key locked ok rows txs) {n : ℕ} {old tx : τ} (hn : txs[n]? = some old)
    (hchange : Change key (locked old) R rows rows') (hlocked : locked tx = []) :
    Inv key locked ok rows' (txs.set n tx) := by
  apply h.finish hn hchange
  · simp [hlocked]
  · simp [hlocked]

theorem Inv.begin (h : Inv key locked ok rows txs) {tx : τ} (hlocked : locked tx = []) :
    Inv key locked ok rows (txs ++ [tx]) := by
  constructor
  case keys => exact h.keys
  case disjoint =>
    intro n m tx₁ tx₂ hnm hn hm row hrow₁ hrow₂
    rcases Machine.getElem?_append_cases hn with hn' | ⟨-, rfl⟩
    · rcases Machine.getElem?_append_cases hm with hm' | ⟨-, rfl⟩
      · exact h.disjoint n m tx₁ tx₂ hnm hn' hm' row hrow₁ hrow₂
      · simp [hlocked] at hrow₂
    · simp [hlocked] at hrow₁
  case knows =>
    intro tx' htx' r hr hrow
    rcases List.mem_append.mp htx' with hold | hnew
    · exact h.knows tx' hold r hr hrow
    · rw [List.mem_singleton.mp hnew, hlocked] at hrow
      simp at hrow

end ConnectionTopology.RowLocks
