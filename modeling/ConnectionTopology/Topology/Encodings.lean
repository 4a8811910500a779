import ConnectionTopology.Services.TopologyHistory

/-!
# Markers and separated sets

The two encodings through which the database hands aggregates to Python. A marker of
numbers of at most twenty digits is read back as these numbers and ordered as their
triple. A separated set is read back as the union of the sets it was joined from.
-/
namespace ConnectionTopology

/-! ## Separated sets -/

theorem truthy_some {text : String} : truthy (some text) = true ↔ text ≠ "" := by
  simp [truthy]

theorem csvStrSet_some {text : String} (h : text ≠ "") :
    csvStrSet (some text) = (Text.split ',' text).toFinset :=
  if_pos (truthy_some.mpr h)

theorem csvIntSet_some {text : String} (h : text ≠ "") :
    csvIntSet (some text) = ((Text.split ',' text).filterMap Text.int).toFinset :=
  if_pos (truthy_some.mpr h)

@[simp] theorem csvStrSet_none : csvStrSet none = ∅ := rfl

@[simp] theorem csvIntSet_none : csvIntSet none = ∅ := rfl

/-- The integers printed in a separated list. -/
theorem mem_csvIntSet_join {ns : List ℤ} (hne : ns ≠ []) {n : ℤ} :
    n ∈ csvIntSet (some (Text.join ',' (ns.map toString))) ↔ n ∈ ns := by
  have hparts : ns.map (toString : ℤ → String) ≠ [] := by simpa using hne
  have htext : Text.join ',' (ns.map toString) ≠ "" := by
    apply Text.join_ne_empty hparts
    intro p hp
    obtain ⟨m, -, rfl⟩ := List.mem_map.mp hp
    exact Text.toString_int_ne_empty m
  have hcomma : ∀ p ∈ ns.map (toString : ℤ → String), ',' ∉ p.toList := by
    intro p hp
    obtain ⟨m, -, rfl⟩ := List.mem_map.mp hp
    exact Text.not_comma_toString m
  rw [csvIntSet_some htext, Text.split_join hparts hcomma, List.mem_toFinset, List.mem_filterMap]
  constructor
  · rintro ⟨p, hp, hint⟩
    obtain ⟨m, hm, rfl⟩ := List.mem_map.mp hp
    rw [Text.int_toString] at hint
    cases hint
    exact hm
  · intro hn
    exact ⟨toString n, List.mem_map.mpr ⟨n, hn, rfl⟩, Text.int_toString n⟩

/-- The scan identifiers of an aggregate row. -/
theorem mem_scanIds {group : List ConnectionServiceObservation} (hne : group ≠ []) {id : ℕ} :
    id ∈ (csvIntSet (some (Text.join ',' (group.map fun o => toString o.scanRunId)))).image
        Int.toNat ↔
      ∃ o ∈ group, o.scanRunId = id := by
  have hprint : group.map (fun o => toString o.scanRunId) =
      (group.map fun o => (o.scanRunId : ℤ)).map toString := by
    rw [List.map_map]
    rfl
  rw [hprint, Finset.mem_image]
  constructor
  · rintro ⟨n, hn, rfl⟩
    rw [mem_csvIntSet_join (by simpa using hne)] at hn
    obtain ⟨o, ho, rfl⟩ := List.mem_map.mp hn
    exact ⟨o, ho, rfl⟩
  · rintro ⟨o, ho, rfl⟩
    refine ⟨(o.scanRunId : ℤ), ?_, rfl⟩
    rw [mem_csvIntSet_join (by simpa using hne)]
    exact List.mem_map.mpr ⟨o, ho, rfl⟩

theorem stringAggDistinct_eq (values : List String) :
    stringAggDistinct values =
      if values = [] then none
      else some (Text.join ',' (values.dedup.insertionSort (· ≤ ·))) := by
  unfold stringAggDistinct
  cases h : values.dedup.insertionSort (· ≤ ·) with
  | nil =>
    have hnil : values = [] := by
      have hperm := List.perm_insertionSort (· ≤ ·) values.dedup
      rw [h] at hperm
      exact (List.dedup_eq_nil values).mp hperm.symm.eq_nil
    simp [hnil]
  | cons v vs =>
    have hne : values ≠ [] := by
      rintro rfl
      simp at h
    simp [hne]

theorem mem_sortedDistinct {values : List String} {text : String} :
    text ∈ values.dedup.insertionSort (· ≤ ·) ↔ text ∈ values := by
  rw [List.mem_insertionSort, List.mem_dedup]

theorem sortedDistinct_ne_nil {values : List String} (h : values ≠ []) :
    values.dedup.insertionSort (· ≤ ·) ≠ [] := by
  obtain ⟨v, vs, rfl⟩ := List.exists_cons_of_ne_nil h
  exact List.ne_nil_of_mem (mem_sortedDistinct.mpr List.mem_cons_self)

/-- The aggregated values themselves, when none holds a comma. -/
theorem mem_split_stringAgg {values : List String} (hne : values ≠ [])
    (hcomma : ∀ v ∈ values, ',' ∉ v.toList) {text : String} :
    text ∈ Text.split ',' ((stringAggDistinct values).getD "") ↔ text ∈ values := by
  rw [stringAggDistinct_eq, if_neg hne, Option.getD_some, Text.split_join (sortedDistinct_ne_nil hne)
    (fun v hv => hcomma v (mem_sortedDistinct.mp hv)), mem_sortedDistinct]

theorem stringAgg_ne_empty {values : List String} (hne : values ≠ [])
    (hvalues : ∀ v ∈ values, v ≠ "") : (stringAggDistinct values).getD "" ≠ "" := by
  rw [stringAggDistinct_eq, if_neg hne, Option.getD_some]
  exact Text.join_ne_empty (sortedDistinct_ne_nil hne) fun v hv => hvalues v (mem_sortedDistinct.mp hv)

/-- An aggregate of separated sets is read as their union. -/
theorem mem_csvStrSet_stringAgg {values : List String} (hvalues : ∀ v ∈ values, v ≠ "")
    {text : String} :
    text ∈ csvStrSet (stringAggDistinct values) ↔ ∃ v ∈ values, text ∈ Text.split ',' v := by
  by_cases hne : values = []
  · simp [stringAggDistinct_eq, hne]
  · have htext := stringAgg_ne_empty hne hvalues
    rw [stringAggDistinct_eq, if_neg hne, Option.getD_some] at htext
    rw [stringAggDistinct_eq, if_neg hne, csvStrSet_some htext,
      Text.split_join_flatMap (sortedDistinct_ne_nil hne), List.mem_toFinset, List.mem_flatMap]
    simp only [mem_sortedDistinct]

theorem mem_csvIntSet_stringAgg {values : List String} (hvalues : ∀ v ∈ values, v ≠ "") {n : ℤ} :
    n ∈ csvIntSet (stringAggDistinct values) ↔
      ∃ v ∈ values, ∃ text ∈ Text.split ',' v, Text.int text = some n := by
  by_cases hne : values = []
  · simp [stringAggDistinct_eq, hne]
  · have htext := stringAgg_ne_empty hne hvalues
    rw [stringAggDistinct_eq, if_neg hne, Option.getD_some] at htext
    rw [stringAggDistinct_eq, if_neg hne, csvIntSet_some htext,
      Text.split_join_flatMap (sortedDistinct_ne_nil hne), List.mem_toFinset, List.mem_filterMap]
    simp only [List.mem_flatMap, mem_sortedDistinct]
    constructor
    · rintro ⟨text, ⟨v, hv, htext⟩, hint⟩
      exact ⟨v, hv, text, htext, hint⟩
    · rintro ⟨v, hv, text, htext, hint⟩
      exact ⟨text, ⟨v, hv, htext⟩, hint⟩

section

variable {selected : List ConnectionServiceObservation} {key : ServiceKey}

/-- The values of a column in the group of a key. -/
theorem mem_distinct {β : Type} [DecidableEq β] {f : ConnectionServiceObservation → β} {b : β} :
    b ∈ ((selected.filter (·.rawKey = key)).map f).dedup ↔
      ∃ o ∈ selected, o.rawKey = key ∧ f o = b := by
  simp only [List.mem_dedup, List.mem_map, List.mem_filter, decide_eq_true_eq, and_assoc]

/-- The texts of a column among the distinct rows of a key. -/
theorem exists_column_iff {column : String × String × Option String → Option String}
    {P : String → Prop} :
    (∃ v ∈ (((selected.filter (·.rawKey = key)).map fun o =>
        (o.localIps, o.localPorts, o.pids)).dedup).filterMap column, P v) ↔
      ∃ o ∈ selected, o.rawKey = key ∧ ∃ v, column (o.localIps, o.localPorts, o.pids) = some v ∧
        P v := by
  simp only [List.mem_filterMap, mem_distinct]
  constructor
  · rintro ⟨v, ⟨t, ⟨o, ho, hkey, rfl⟩, hv⟩, hP⟩
    exact ⟨o, ho, hkey, v, hv, hP⟩
  · rintro ⟨o, ho, hkey, v, hv, hP⟩
    exact ⟨v, ⟨_, ⟨o, ho, hkey, rfl⟩, hv⟩, hP⟩

/-- A column without empty texts has none among the distinct rows. -/
theorem column_ne_empty {column : String × String × Option String → Option String}
    (h : ∀ o ∈ selected, ∀ v, column (o.localIps, o.localPorts, o.pids) = some v → v ≠ "") :
    ∀ v ∈ (((selected.filter (·.rawKey = key)).map fun o =>
      (o.localIps, o.localPorts, o.pids)).dedup).filterMap column, v ≠ "" := by
  intro v hv
  obtain ⟨o, ho, -, v', hv', rfl⟩ := exists_column_iff.mp ⟨v, hv, rfl⟩
  exact h o ho _ hv'

theorem mem_csvRow_localIps (h : ∀ o ∈ selected, o.localIps ≠ "") {text : String} :
    text ∈ csvStrSet (csvRow selected key).localIps ↔
      ∃ o ∈ selected, o.rawKey = key ∧ text ∈ Text.split ',' o.localIps := by
  have hne : ∀ o ∈ selected, ∀ v, some o.localIps = some v → v ≠ "" := by
    rintro o ho v ⟨⟩
    exact h o ho
  unfold csvRow
  dsimp only
  rw [← List.filterMap_eq_map, mem_csvStrSet_stringAgg (column_ne_empty hne), exists_column_iff]
  simp only [Function.comp_apply, Option.some.injEq, exists_eq_left']

theorem mem_csvRow_localPorts (h : ∀ o ∈ selected, o.localPorts ≠ "") {n : ℤ} :
    n ∈ csvIntSet (csvRow selected key).localPorts ↔
      ∃ o ∈ selected, o.rawKey = key ∧ ∃ text ∈ Text.split ',' o.localPorts,
        Text.int text = some n := by
  have hne : ∀ o ∈ selected, ∀ v, some o.localPorts = some v → v ≠ "" := by
    rintro o ho v ⟨⟩
    exact h o ho
  unfold csvRow
  dsimp only
  rw [← List.filterMap_eq_map, mem_csvIntSet_stringAgg (column_ne_empty hne), exists_column_iff]
  simp only [Function.comp_apply, Option.some.injEq, exists_eq_left']

theorem mem_csvRow_pids (h : ∀ o ∈ selected, ∀ v, o.pids = some v → v ≠ "") {n : ℤ} :
    n ∈ csvIntSet (csvRow selected key).pids ↔
      ∃ o ∈ selected, o.rawKey = key ∧ ∃ v, o.pids = some v ∧ ∃ text ∈ Text.split ',' v,
        Text.int text = some n := by
  unfold csvRow
  dsimp only
  rw [mem_csvIntSet_stringAgg (column_ne_empty h), exists_column_iff]

end

/-! ## Markers -/

/-- The number fits in the twenty digits of a marker, as every 64-bit column does. -/
def FitsMarker (n : ℕ) : Prop := n < 10 ^ 20

instance (n : ℕ) : Decidable (FitsMarker n) := inferInstanceAs (Decidable (n < 10 ^ 20))

theorem not_bar_of_fits {n : ℕ} (h : FitsMarker n) :
    '|' ∉ (Text.lpad 20 '0' (toString n)).toList := by
  intro hbar
  exact absurd (Text.isDigit_of_mem_lpad (by decide) h hbar) (by decide)

theorem markerText_eq_join (a b c : ℕ) :
    markerText a b c = Text.join '|' [Text.lpad 20 '0' (toString a), Text.lpad 20 '0' (toString b),
      Text.lpad 20 '0' (toString c)] := by
  rw [← String.toList_inj]
  simp [markerText, Text.join, List.intercalate]

/-- Reading a marker gives the numbers it was made of. -/
theorem markerParts_markerText {a b c : ℕ} (ha : FitsMarker a) (hb : FitsMarker b)
    (hc : FitsMarker c) : markerParts (markerText a b c) = [a, b, c] := by
  have hsplit : Text.split '|' (markerText a b c) = [Text.lpad 20 '0' (toString a),
      Text.lpad 20 '0' (toString b), Text.lpad 20 '0' (toString c)] := by
    rw [markerText_eq_join]
    apply Text.split_join (by simp)
    simp only [List.mem_cons, List.not_mem_nil, or_false]
    rintro p (rfl | rfl | rfl)
    · exact not_bar_of_fits ha
    · exact not_bar_of_fits hb
    · exact not_bar_of_fits hc
  unfold markerParts Text.rsplit
  rw [hsplit]
  simp only [List.length_cons, List.length_nil, Nat.reduceAdd, Nat.reduceLeDiff, if_true,
    List.map_cons, List.map_nil, Text.int_lpad (by decide : 0 < 20) ha,
    Text.int_lpad (by decide : 0 < 20) hb, Text.int_lpad (by decide : 0 < 20) hc,
    Option.getD_some, Int.toNat_natCast]

/-- Markers are ordered as the triples of their numbers. -/
theorem markerText_lt_iff {a b c a' b' c' : ℕ} (ha : FitsMarker a) (hb : FitsMarker b)
    (hc : FitsMarker c) (ha' : FitsMarker a') (hb' : FitsMarker b') (hc' : FitsMarker c') :
    markerText a b c < markerText a' b' c' ↔
      (toLex (a, toLex (b, c)) : ℕ ×ₗ ℕ ×ₗ ℕ) < toLex (a', toLex (b', c')) := by
  have hlen : ∀ {m n : ℕ}, FitsMarker m → FitsMarker n →
      (Text.lpad 20 '0' (toString m)).toList.length = (Text.lpad 20 '0' (toString n)).toList.length :=
    fun hm hn => (Text.length_lpad (by decide) hm).trans (Text.length_lpad (by decide) hn).symm
  rw [String.lt_iff_toList_lt, Prod.Lex.toLex_lt_toLex, Prod.Lex.toLex_lt_toLex]
  simp only [markerText, String.toList_append, List.append_assoc]
  rw [Text.append_lt_append_iff (hlen ha ha'), Text.append_lt_append_iff rfl,
    Text.append_lt_append_iff (hlen hb hb'), Text.append_lt_append_iff rfl,
    Text.lpad_lt_lpad_iff (by decide) ha ha', Text.lpad_lt_lpad_iff (by decide) hb hb',
    Text.lpad_lt_lpad_iff (by decide) hc hc', Text.lpad_inj (by decide) ha ha',
    Text.lpad_inj (by decide) hb hb']
  simp

end ConnectionTopology
