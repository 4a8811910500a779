import ConnectionTopology.Topology.SingleFlight

/-!
# What the topology cache returns

Every stored object is a private copy of one that a factory run or a `put` handed in for
the key, so no code outside the cache can change it, and every result of a call has its
origin in the log. With the invariant of the computations this gives what every
interleaving of calls may rely on.
-/
namespace ConnectionTopology.ObjectCache

variable {κ V E T : Type}

/-! ## Where values come from -/

/-- The content was copied from an object that a factory run or a `put` handed in for the key. -/
def State.Source (s : State κ V E T) (key : κ) (content : V) : Prop :=
  ∃ object, .stored key object content ∈ s.log ∧
    (.produced key object ∈ s.log ∨ .supplied key object ∈ s.log)

/-- No reference to a stored object is outside the cache. -/
def State.Private (s : State κ V E T) : Prop :=
  ∀ key entry, s.entries key = some entry →
    ∃ o, s.heap[entry.object]? = some o ∧ o.outside = false ∧ s.Source key o.content

/-- What a result of a call stands for. -/
def Call.Sound [LT T] [LE T] (s : State κ V E T) (c : Call κ V E T) : Result V E T → Prop
  | .missing => c.kind = .get
  | .read _ content expiresAt now =>
    now < expiresAt ∧ c.startedAt ≤ now ∧ now ≤ s.clock ∧ s.Source c.key content
  | .computed object => c.kind = .getOrCompute ∧ .produced c.key object ∈ s.log
  | .stored => c.kind = .put
  | .reraised f e => f ∈ c.waited ∧ .ended f (some e) ∈ s.log
  | .raised _ | .interrupted => True

/-- What a call has in hand. -/
def Call.Ok [LT T] [LE T] (s : State κ V E T) (c : Call κ V E T) : Prop :=
  match c.point with
  | .loop => c.kind ≠ .put
  | .lookup now => c.kind ≠ .put ∧ c.startedAt ≤ now ∧ now ≤ s.clock
  | .inspect | .waiting _ | .owner _ | .computing _ => c.kind = .getOrCompute
  | .storing _ object =>
    c.kind = .getOrCompute ∧ .produced c.key object ∈ s.log ∧ object < s.heap.length
  | .putting object => c.kind = .put ∧ .supplied c.key object ∈ s.log ∧ object < s.heap.length
  | .popping _ result | .signalling _ result | .done result => c.Sound s result

structure ValueInv [LT T] [LE T] (s : State κ V E T) : Prop where
  stored : s.Private
  started : ∀ c ∈ s.calls, c.startedAt ≤ s.clock
  calls : ∀ c ∈ s.calls, c.Ok s

/-- Time goes on, the log and the heap grow. -/
structure State.Grows [LE T] (s t : State κ V E T) : Prop where
  clock : s.clock ≤ t.clock
  log : s.log ⊆ t.log
  heap : s.heap.length ≤ t.heap.length

theorem State.Source.mono {s t : State κ V E T} {key : κ} {content : V}
    (h : s.Source key content) (hlog : s.log ⊆ t.log) : t.Source key content := by
  obtain ⟨object, hstored, horigin⟩ := h
  exact ⟨object, hlog hstored, horigin.imp (@hlog _) (@hlog _)⟩

theorem State.Private.mono {s t : State κ V E T} (h : s.Private) (hlog : s.log ⊆ t.log)
    (hentries : ∀ key entry, t.entries key = some entry → s.entries key = some entry)
    (hheap : ∀ (object : ℕ) o, s.heap[object]? = some o → o.outside = false →
      t.heap[object]? = some o) : t.Private := by
  intro key entry hentry
  obtain ⟨o, ho, houtside, hsource⟩ := h key entry (hentries key entry hentry)
  exact ⟨o, hheap _ o ho houtside, houtside, hsource.mono hlog⟩

variable [LinearOrder T]

theorem Call.Sound.mono {s t : State κ V E T} (hgrows : s.Grows t) {c : Call κ V E T}
    {result : Result V E T} (h : c.Sound s result) : c.Sound t result := by
  cases result with
  | read object content expiresAt now =>
    obtain ⟨hnow, hstarted, hclock, hsource⟩ := h
    exact ⟨hnow, hstarted, hclock.trans hgrows.clock, hsource.mono hgrows.log⟩
  | computed object => exact ⟨h.1, hgrows.log h.2⟩
  | reraised f e => exact ⟨h.1, hgrows.log h.2⟩
  | missing => exact h
  | stored => exact h
  | raised e => trivial
  | interrupted => trivial

theorem Call.Ok.mono {s t : State κ V E T} (hgrows : s.Grows t) {c : Call κ V E T}
    (h : c.Ok s) : c.Ok t := by
  unfold Call.Ok at h ⊢
  split at h
  · exact h
  · exact ⟨h.1, h.2.1, h.2.2.trans hgrows.clock⟩
  · exact h
  · exact h
  · exact h
  · exact h
  · exact ⟨h.1, hgrows.log h.2.1, h.2.2.trans_le hgrows.heap⟩
  · exact ⟨h.1, hgrows.log h.2.1, h.2.2.trans_le hgrows.heap⟩
  · exact Call.Sound.mono hgrows h
  · exact Call.Sound.mono hgrows h
  · exact Call.Sound.mono hgrows h

/-! ## One step of the values -/

/-- A step that moves one call, or none. -/
theorem ValueInv.move {s t : State κ V E T} (h : ValueInv s) {n : ℕ} {c : Call κ V E T}
    (hc : s.calls[n]? = some c) {point : Point V E T} (hcalls : t.calls = s.calls)
    (hgrows : s.Grows t) (hprivate : t.Private) (hok : Call.Ok t { c with point := point }) :
    ValueInv (t.moveTo n c point) := by
  have hmem : ∀ d ∈ (t.moveTo n c point).calls, d ∈ s.calls ∨ d = { c with point := point } := by
    intro d hd
    simp only [State.moveTo, hcalls] at hd
    exact List.mem_or_eq_of_mem_set hd
  constructor
  · exact hprivate
  · intro d hd
    obtain hd | rfl := hmem d hd
    · exact (h.started d hd).trans hgrows.clock
    · exact (h.started c (List.mem_of_getElem? hc)).trans hgrows.clock
  · intro d hd
    obtain hd | rfl := hmem d hd
    · exact (h.calls d hd).mono hgrows
    · exact hok

theorem ValueInv.keep {s t : State κ V E T} (h : ValueInv s) (hcalls : t.calls = s.calls)
    (hgrows : s.Grows t) (hprivate : t.Private) : ValueInv t := by
  constructor
  · exact hprivate
  · intro c hc
    rw [hcalls] at hc
    exact (h.started c hc).trans hgrows.clock
  · intro c hc
    rw [hcalls] at hc
    exact (h.calls c hc).mono hgrows

theorem ValueInv.start {s t : State κ V E T} (h : ValueInv s) {c : Call κ V E T}
    (hcalls : t.calls = s.calls ++ [c]) (hgrows : s.Grows t) (hprivate : t.Private)
    (hstarted : c.startedAt ≤ t.clock) (hok : c.Ok t) : ValueInv t := by
  constructor
  · exact hprivate
  · intro d hd
    rw [hcalls] at hd
    obtain hd | hd := List.mem_append.mp hd
    · exact (h.started d hd).trans hgrows.clock
    · rwa [List.mem_singleton.mp hd]
  · intro d hd
    rw [hcalls] at hd
    obtain hd | hd := List.mem_append.mp hd
    · exact (h.calls d hd).mono hgrows
    · rwa [List.mem_singleton.mp hd]

omit [LinearOrder T] in
theorem State.reachable_iff {s : State κ V E T} {object : ℕ} :
    s.reachable object = true ↔ ∃ o, s.heap[object]? = some o ∧ o.outside = true := by
  unfold State.reachable
  cases s.heap[object]? <;> simp

omit [LinearOrder T] in
/-- Code outside the cache changes no private object. -/
theorem State.reachable_mutate {s : State κ V E T} {object : ℕ} (h : s.reachable object = true)
    (content : V) {other : ℕ} {o : Object V} (ho : s.heap[other]? = some o)
    (houtside : o.outside = false) :
    (s.heap.modify object fun o => { o with content := content })[other]? = some o := by
  obtain ⟨shared, hshared, hreach⟩ := State.reachable_iff.mp h
  have hne : object ≠ other := by
    rintro rfl
    rw [ho] at hshared
    cases hshared
    rw [houtside] at hreach
    cases hreach
  simp [hne, ho]

theorem ValueInv.get [DecidableEq κ] {s t : State κ V E T} (h : ValueInv s) {n : ℕ}
    {c : Call κ V E T} (hc : s.calls[n]? = some c) {now : T} (hpoint : c.point = .lookup now)
    (hget : s.get n c now = some t) : ValueInv t := by
  have hmem : c ∈ s.calls := List.mem_of_getElem? hc
  obtain ⟨hkind, hstarted, hclock⟩ : c.kind ≠ .put ∧ c.startedAt ≤ now ∧ now ≤ s.clock := by
    simpa [Call.Ok, hpoint] using h.calls c hmem
  have hmissed : ∀ u : State κ V E T, u.calls = s.calls → s.Grows u → u.Private →
      ValueInv (u.missed n c) := by
    intro u hcalls hgrows hprivate
    unfold State.missed
    split
    · rename_i hcompute
      exact h.move hc hcalls hgrows hprivate hcompute
    · rename_i hother
      apply h.move hc hcalls hgrows hprivate
      change c.kind = .get
      cases hcase : c.kind with
      | get => rfl
      | put => exact absurd hcase hkind
      | getOrCompute => exact absurd hcase hother
  unfold State.get at hget
  split at hget
  · cases hget
    exact hmissed s rfl ⟨le_rfl, List.Subset.refl _, le_rfl⟩ h.stored
  · rename_i entry hentry
    split_ifs at hget with hexpired
    · cases hget
      apply hmissed
      · rfl
      · exact ⟨le_rfl, List.Subset.refl _, le_rfl⟩
      · apply h.stored.mono
        · exact List.Subset.refl _
        · intro key e he
          by_cases hkey : key = c.key
          · simp [hkey] at he
          · dsimp only at he
            rwa [Function.update_of_ne hkey] at he
        · exact fun _ _ ho _ => ho
    · obtain ⟨o, ho, rfl⟩ := Option.map_eq_some_iff.mp hget
      obtain ⟨o', ho', -, hsource⟩ := h.stored c.key entry hentry
      rw [ho] at ho'
      cases ho'
      apply h.move hc
      · rfl
      · exact ⟨le_rfl, List.Subset.refl _, by simp⟩
      · apply h.stored.mono
        · exact List.Subset.refl _
        · exact fun _ _ he => he
        · intro object p hp _
          exact (List.getElem?_append_left (List.getElem?_eq_some_iff.mp hp).1).trans hp
      · exact ⟨not_le.mp hexpired, hstarted, hclock, hsource⟩

/-- What `put` stores is a private copy of the object that it was given. -/
theorem ValueInv.put [DecidableEq κ] [Add T] {ttl : T} {s t : State κ V E T} (h : ValueInv s)
    {key : κ} {object : ℕ} (horigin : .produced key object ∈ s.log ∨ .supplied key object ∈ s.log)
    (hput : s.put ttl key object = some t) : s.Grows t ∧ t.Private := by
  obtain ⟨o, ho, rfl⟩ := State.put_eq hput
  have hlog : ∀ l : List (Event κ V E), l ⊆ Event.stored key object o.content :: l :=
    fun l => List.subset_cons_self _ l
  refine ⟨⟨le_rfl, hlog _, by simp⟩, ?_⟩
  intro k entry hentry
  dsimp only at hentry
  by_cases hkey : k = key
  · subst hkey
    rw [Function.update_self] at hentry
    cases hentry
    refine ⟨_, List.getElem?_concat_length, rfl, object, List.mem_cons_self, ?_⟩
    exact horigin.imp (@hlog _ _) (@hlog _ _)
  · rw [Function.update_of_ne hkey] at hentry
    obtain ⟨p, hp, houtside, hsource⟩ := h.stored k entry hentry
    refine ⟨p, ?_, houtside, hsource.mono (hlog _)⟩
    exact (List.getElem?_append_left (List.getElem?_eq_some_iff.mp hp).1).trans hp

/-- The owner leaves the `try` block with a result that has an origin. -/
theorem ValueInv.leave {s t : State κ V E T} (h : ValueInv s) (hcalls : t.calls = s.calls)
    (hgrows : s.Grows t) (hprivate : t.Private) {n : ℕ} {c : Call κ V E T}
    (hc : s.calls[n]? = some c) (f : ℕ) (error : Option E) {result : Result V E T}
    (hsound : c.Sound t result) : ValueInv (t.leave n c f error result) := by
  apply h.move hc
  · exact hcalls
  · exact ⟨hgrows.clock, fun _ he => List.mem_cons_of_mem _ (hgrows.log he), hgrows.heap⟩
  · exact hprivate.mono (List.subset_cons_self _ _) (fun _ _ he => he) fun _ _ ho _ => ho
  · apply Call.Sound.mono _ hsound
    exact ⟨le_rfl, List.subset_cons_self _ _, le_rfl⟩

theorem ValueInv.callStep [DecidableEq κ] [Add T] {ttl : T} {s t : State κ V E T}
    (h : ValueInv s) (hflights : FlightInv s) {n : ℕ} {c : Call κ V E T}
    (hc : s.calls[n]? = some c) {a : Action κ V E T} (hstep : s.callStep ttl n c a = some t) :
    ValueInv t := by
  have hmem : c ∈ s.calls := List.mem_of_getElem? hc
  have hok := h.calls c hmem
  have hgrows : s.Grows s := ⟨le_rfl, List.Subset.refl _, le_rfl⟩
  unfold Call.Ok at hok
  cases a with
  | tick now => cases hstep
  | alloc content => cases hstep
  | mutate object content => cases hstep
  | startGet key => cases hstep
  | startPut key object => cases hstep
  | startGetOrCompute key => cases hstep
  | clear => cases hstep
  | readClock m =>
    simp only [State.callStep] at hstep
    split at hstep
    · rename_i hpoint
      cases hstep
      simp only [hpoint] at hok
      exact h.move hc rfl hgrows h.stored ⟨hok, h.started c hmem, le_rfl⟩
    · cases hstep
  | get m =>
    simp only [State.callStep] at hstep
    split at hstep
    · rename_i now hpoint
      exact h.get hc hpoint hstep
    · cases hstep
  | inspect m =>
    simp only [State.callStep] at hstep
    split at hstep
    · rename_i hpoint
      cases hstep
      simp only [hpoint] at hok
      unfold State.inspect
      split
      · exact h.move hc rfl ⟨le_rfl, List.Subset.refl _, le_rfl⟩ h.stored hok
      · rename_i f hf
        constructor
        · exact h.stored
        · intro d hd
          obtain hd | rfl := List.mem_or_eq_of_mem_set hd
          · exact h.started d hd
          · exact h.started c hmem
        · intro d hd
          obtain hd | rfl := List.mem_or_eq_of_mem_set hd
          · exact h.calls d hd
          · exact hok
    · cases hstep
  | wake m =>
    simp only [State.callStep] at hstep
    split at hstep
    · rename_i f hpoint
      simp only [hpoint] at hok
      split at hstep
      · cases hstep
      · rename_i flight hflight
        split_ifs at hstep with hevent
        cases hstep
        apply h.move hc rfl hgrows h.stored
        cases herror : flight.error with
        | none => simp [Call.Ok, hok]
        | some e =>
          have hended := (hflights.ended_of_event hflight hevent (some e)).mpr herror.symm
          exact ⟨(hflights.waits c hmem f hpoint).1, hended⟩
    · cases hstep
  | beginFactory m =>
    simp only [State.callStep] at hstep
    split at hstep
    · rename_i f hpoint
      cases hstep
      simp only [hpoint] at hok
      exact h.move hc rfl hgrows h.stored hok
    · cases hstep
  | endFactory m result =>
    simp only [State.callStep] at hstep
    split at hstep
    · rename_i f hpoint
      simp only [hpoint] at hok
      split at hstep
      · rename_i object
        split_ifs at hstep with hreach
        cases hstep
        obtain ⟨o, ho, -⟩ := State.reachable_iff.mp hreach
        apply h.move hc
        · rfl
        · exact ⟨le_rfl, List.subset_cons_self _ _, le_rfl⟩
        · exact h.stored.mono (List.subset_cons_self _ _) (fun _ _ he => he) fun _ _ hp _ => hp
        · exact ⟨hok, List.mem_cons_self, (List.getElem?_eq_some_iff.mp ho).1⟩
      · cases hstep
        exact h.leave rfl hgrows h.stored hc _ _ trivial
      · cases hstep
        exact h.leave rfl hgrows h.stored hc _ _ trivial
    · cases hstep
  | put m =>
    simp only [State.callStep] at hstep
    split at hstep
    · rename_i f object hpoint
      simp only [hpoint] at hok
      obtain ⟨u, hput, rfl⟩ := Option.map_eq_some_iff.mp hstep
      obtain ⟨hgrowsu, hprivate⟩ := h.put (Or.inl hok.2.1) hput
      have hcalls : u.calls = s.calls := by
        obtain ⟨o, -, rfl⟩ := State.put_eq hput
        rfl
      exact h.leave hcalls hgrowsu hprivate hc _ _ ⟨hok.1, hgrowsu.log hok.2.1⟩
    · rename_i object hpoint
      simp only [hpoint] at hok
      obtain ⟨u, hput, rfl⟩ := Option.map_eq_some_iff.mp hstep
      obtain ⟨hgrowsu, hprivate⟩ := h.put (Or.inr hok.2.1) hput
      have hcalls : u.calls = s.calls := by
        obtain ⟨o, -, rfl⟩ := State.put_eq hput
        rfl
      exact h.move hc hcalls hgrowsu hprivate hok.1
    · cases hstep
  | copyFails m e =>
    simp only [State.callStep] at hstep
    split at hstep
    · split at hstep
      · cases hstep
      · split_ifs at hstep
        cases hstep
        exact h.move hc rfl hgrows h.stored trivial
    · cases hstep
      exact h.leave rfl hgrows h.stored hc _ _ trivial
    · cases hstep
      exact h.move hc rfl hgrows h.stored trivial
    · cases hstep
  | pop m =>
    simp only [State.callStep] at hstep
    split at hstep
    · rename_i f result hpoint
      cases hstep
      simp only [hpoint] at hok
      exact h.move hc rfl ⟨le_rfl, List.Subset.refl _, le_rfl⟩ h.stored hok
    · cases hstep
  | signal m =>
    simp only [State.callStep] at hstep
    split at hstep
    · rename_i f result hpoint
      cases hstep
      simp only [hpoint] at hok
      exact h.move hc rfl ⟨le_rfl, List.Subset.refl _, le_rfl⟩ h.stored hok
    · cases hstep

theorem ValueInv.step [DecidableEq κ] [Add T] {ttl : T} {s t : State κ V E T} (h : ValueInv s)
    (hflights : FlightInv s) {a : Action κ V E T} (hstep : ObjectCache.step ttl s a = some t) :
    ValueInv t := by
  unfold ObjectCache.step at hstep
  split at hstep
  · split_ifs at hstep with hclock
    cases hstep
    exact h.keep rfl ⟨hclock, List.Subset.refl _, le_rfl⟩ h.stored
  · cases hstep
    apply h.keep
    · rfl
    · exact ⟨le_rfl, List.Subset.refl _, by simp⟩
    · apply h.stored.mono
      · exact List.Subset.refl _
      · exact fun _ _ he => he
      · intro object o ho _
        exact (List.getElem?_append_left (List.getElem?_eq_some_iff.mp ho).1).trans ho
  · split_ifs at hstep with hreach
    cases hstep
    apply h.keep
    · rfl
    · exact ⟨le_rfl, List.Subset.refl _, by simp⟩
    · apply h.stored.mono
      · exact List.Subset.refl _
      · exact fun _ _ he => he
      · intro object o ho houtside
        exact State.reachable_mutate hreach _ ho houtside
  · cases hstep
    apply h.start
    · rfl
    · exact ⟨le_rfl, List.Subset.refl _, le_rfl⟩
    · exact h.stored
    · exact le_rfl
    · simp [Call.Ok]
  · split_ifs at hstep with hreach
    cases hstep
    obtain ⟨o, ho, -⟩ := State.reachable_iff.mp hreach
    apply h.start
    · rfl
    · exact ⟨le_rfl, List.subset_cons_self _ _, le_rfl⟩
    · exact h.stored.mono (List.subset_cons_self _ _) (fun _ _ he => he) fun _ _ hp _ => hp
    · exact le_rfl
    · exact ⟨rfl, List.mem_cons_self, (List.getElem?_eq_some_iff.mp ho).1⟩
  · cases hstep
    apply h.start
    · rfl
    · exact ⟨le_rfl, List.Subset.refl _, le_rfl⟩
    · exact h.stored
    · exact le_rfl
    · simp [Call.Ok]
  · cases hstep
    apply h.keep
    · rfl
    · exact ⟨le_rfl, List.Subset.refl _, le_rfl⟩
    · intro key entry hentry
      cases hentry
  · split at hstep
    · cases hstep
    · obtain ⟨c, hc, hstep⟩ := Option.bind_eq_some_iff.mp hstep
      exact h.callStep hflights hc hstep

/-! ## Every interleaving -/

/-- The table has no entry of the computation and every call that waits for it may go on. -/
def State.Released [DecidableEq κ] [Add T] (ttl : T) (s : State κ V E T) (f : ℕ) : Prop :=
  (∀ key, s.inflight key ≠ some f) ∧
    ∀ (n : ℕ) c, s.calls[n]? = some c → c.point = .waiting f →
      ∃ t, ObjectCache.step ttl s (.wake n) = some t

/-- What the callers of the cache may rely on. -/
structure SingleFlight [DecidableEq κ] [Add T] (ttl : T) (s : State κ V E T) : Prop where
  /-- One factory run for each key. -/
  alone : ∀ (m n : ℕ) c d f g, s.calls[m]? = some c → s.calls[n]? = some d → c.key = d.key →
    c.point = .computing f → d.point = .computing g → m = n
  results : ∀ c ∈ s.calls, ∀ result, c.point = .done result → c.Sound s result
  shared : ∀ c ∈ s.calls, ∀ f ∈ c.waited, ∀ e, .ended f (some e) ∈ s.log →
    c.point = .waiting f ∨ c.point = .done (.reraised f e)
  /-- A factory run that has returned is followed by the end of its computation. -/
  finishes : ∀ (n : ℕ) c f object, s.calls[n]? = some c → c.point = .storing f object →
    ∃ t, ObjectCache.step ttl s (.put n) = some t ∧ .ended f none ∈ t.log
  /-- An ended computation has been released, or its owner is about to do it. -/
  released : ∀ f error, .ended f error ∈ s.log →
    (∃ n c result, s.calls[n]? = some c ∧ c.point = .popping f result ∧
      ∃ t, ObjectCache.step ttl s (.pop n) = some t ∧ ∀ key, t.inflight key ≠ some f) ∨
    (∃ n c result, s.calls[n]? = some c ∧ c.point = .signalling f result ∧
      (∀ key, s.inflight key ≠ some f) ∧
      ∃ t, ObjectCache.step ttl s (.signal n) = some t ∧ t.Released ttl f) ∨
    s.Released ttl f
  /-- A change of a dictionary outside the cache reaches no stored value. -/
  unchanged : ∀ object content t, ObjectCache.step ttl s (.mutate object content) = some t →
    t.stored = s.stored

variable [DecidableEq κ] [Add T] {ttl : T} {s : State κ V E T}

omit [LinearOrder T] [DecidableEq κ] [Add T] in
/-- Two calls that hold a computation for one key are the same call. -/
theorem FlightInv.eq_of_holds (h : FlightInv s) {m n : ℕ} {key : κ} {f g : ℕ}
    (hm : s.Holds m key f) (hn : s.Holds n key g) : m = n := by
  have hfg : some f = some g := (h.held m key f hm).symm.trans (h.held n key g hn)
  cases hfg
  exact h.owner m n f hm.owns hn.owns

theorem FlightInv.released_of_event (h : FlightInv s) {f : ℕ} {flight : Inflight E}
    (hflight : s.flights[f]? = some flight) (hevent : flight.event = true) :
    s.Released ttl f := by
  constructor
  · intro key hkey
    obtain ⟨n, hn⟩ := h.holder key f hkey
    obtain ⟨other, hother, hunset⟩ := h.unset n f hn.owns
    rw [hflight] at hother
    cases hother
    simp [hevent] at hunset
  · intro n c hc hpoint
    simp [ObjectCache.step, Action.call?, hc, State.callStep, hpoint, hflight, hevent]

theorem FlightInv.released (h : FlightInv s) {f : ℕ} {error : Option E}
    (hended : .ended f error ∈ s.log) :
    (∃ n c result, s.calls[n]? = some c ∧ c.point = .popping f result ∧
      ∃ t, ObjectCache.step ttl s (.pop n) = some t ∧ ∀ key, t.inflight key ≠ some f) ∨
    (∃ n c result, s.calls[n]? = some c ∧ c.point = .signalling f result ∧
      (∀ key, s.inflight key ≠ some f) ∧
      ∃ t, ObjectCache.step ttl s (.signal n) = some t ∧ t.Released ttl f) ∨
    s.Released ttl f := by
  obtain ⟨hidle, flight, hflight, -⟩ := h.ended f error hended
  obtain hevent | ⟨n, hn⟩ := h.owned f flight hflight
  · exact Or.inr (Or.inr (h.released_of_event hflight hevent))
  · obtain ⟨c, hc, hpoint⟩ := hn
    have hruns : c.point.runs ≠ some f := fun hruns => hidle n ⟨c, hc, hruns⟩
    -- no other call can hold what this one owns
    have hother : ∀ key, s.inflight key = some f → s.Holds n key f := by
      intro key hkey
      obtain ⟨m, hm⟩ := h.holder key f hkey
      rwa [h.owner n m f ⟨c, hc, hpoint⟩ hm.owns]
    cases hcase : c.point with
    | popping g result =>
      rw [hcase] at hpoint
      cases hpoint
      refine Or.inl ⟨n, c, result, hc, hcase, ?_⟩
      simp only [ObjectCache.step, Action.call?, hc, Option.bind_some, State.callStep, hcase]
      refine ⟨_, rfl, ?_⟩
      intro key hkey
      change Function.update s.inflight c.key none key = some f at hkey
      by_cases hkc : key = c.key
      · simp [hkc] at hkey
      · rw [Function.update_of_ne hkc] at hkey
        obtain ⟨d, hd, hdkey, -⟩ := hother key hkey
        rw [hc] at hd
        cases hd
        exact hkc hdkey.symm
    | signalling g result =>
      rw [hcase] at hpoint
      cases hpoint
      refine Or.inr (Or.inl ⟨n, c, result, hc, hcase, ?_, ?_⟩)
      · intro key hkey
        obtain ⟨d, hd, -, hholds⟩ := hother key hkey
        rw [hc] at hd
        cases hd
        rw [hcase] at hholds
        cases hholds
      · have hinv := h.signal hc hcase
        simp only [ObjectCache.step, Action.call?, hc, Option.bind_some, State.callStep, hcase]
        refine ⟨_, rfl, ?_⟩
        have hset : (s.flights.modify f fun g => { g with event := true })[f]? =
            some { flight with event := true } := by simp [hflight]
        exact hinv.released_of_event hset rfl
    | loop => simp [hcase, Point.owns] at hpoint
    | lookup now => simp [hcase, Point.owns] at hpoint
    | inspect => simp [hcase, Point.owns] at hpoint
    | waiting g => simp [hcase, Point.owns] at hpoint
    | putting object => simp [hcase, Point.owns] at hpoint
    | done result => simp [hcase, Point.owns] at hpoint
    | owner g => exact absurd (by simpa [hcase, Point.owns, Point.runs] using hpoint) hruns
    | computing g => exact absurd (by simpa [hcase, Point.owns, Point.runs] using hpoint) hruns
    | storing g object => exact absurd (by simpa [hcase, Point.owns, Point.runs] using hpoint) hruns

/-- Only private objects are stored, and nothing outside the cache changes one. -/
theorem ValueInv.unchanged (h : ValueInv s) {object : ℕ} {content : V} {t : State κ V E T}
    (hstep : ObjectCache.step ttl s (.mutate object content) = some t) : t.stored = s.stored := by
  simp only [ObjectCache.step] at hstep
  split_ifs at hstep with hreach
  cases hstep
  funext key
  unfold State.stored
  cases hentry : s.entries key with
  | none => rfl
  | some entry =>
    obtain ⟨o, ho, houtside, -⟩ := h.stored key entry hentry
    have hkept := State.reachable_mutate hreach content ho houtside
    simp only [Option.bind_some, ho, hkept]

/-- In every interleaving of any calls, with any results of the factories, any changes of
dictionaries by other code and a clock that never goes back, the cache keeps its promises. -/
theorem single_flight (ttl now : T) (actions : List (Action κ V E T)) {s : State κ V E T}
    (hrun : Machine.run (ObjectCache.step ttl) (ObjectCache.empty now) actions = some s) :
    SingleFlight ttl s := by
  obtain ⟨hflights, hvalues⟩ : FlightInv s ∧ ValueInv s := by
    apply Machine.run_invariant (fun s => FlightInv s ∧ ValueInv s) _ _ hrun
    · rintro s a t ⟨hflights, hvalues⟩ hstep
      exact ⟨hflights.step hstep, hvalues.step hflights hstep⟩
    · refine ⟨FlightInv.empty now, ?_⟩
      constructor <;> simp [ObjectCache.empty, State.Private]
  constructor
  · intro m n c d f g hc hd hkey hpoint hpoint'
    apply hflights.eq_of_holds (f := f) (g := g)
    · exact ⟨c, hc, hkey, by simp [hpoint, Point.holds]⟩
    · exact ⟨d, hd, rfl, by simp [hpoint', Point.holds]⟩
  · intro c hc result hpoint
    have hok := hvalues.calls c hc
    simpa only [Call.Ok, hpoint] using hok
  · intro c hc f hf e he
    exact (hflights.waited c hc f hf).imp_right fun h => h.2 e he
  · intro n c f object hc hpoint
    have hok := hvalues.calls c (List.mem_of_getElem? hc)
    simp only [Call.Ok, hpoint] at hok
    have ho := List.getElem?_eq_getElem hok.2.2
    simp [ObjectCache.step, Action.call?, hc, State.callStep, hpoint, State.put, ho, State.leave,
      State.moveTo]
  · exact fun f error hended => hflights.released hended
  · exact fun object content t hstep => hvalues.unchanged hstep

/-- A `put` whose object is changed afterwards, a reader, and two calls of another key:
the factory of the first raises while the second waits. -/
def sharedFailure : List (Action ℕ ℕ ℕ ℕ) :=
  [.alloc 7, .startPut 0 0, .put 0, .mutate 0 8, .tick 10, .startGetOrCompute 0, .readClock 1,
    .get 1, .startGetOrCompute 1, .readClock 2, .get 2, .inspect 2, .beginFactory 2,
    .startGetOrCompute 1, .readClock 3, .get 3, .inspect 3, .endFactory 2 (.exception 5), .clear,
    .pop 2, .signal 2, .wake 3]

theorem shared_failure_is_reraised :
    ∃ s, Machine.run (ObjectCache.step 30) (ObjectCache.empty 0) sharedFailure = some s ∧
      SingleFlight 30 s :=
  ⟨_, rfl, single_flight 30 0 sharedFailure rfl⟩

/-- The second call reads the clock, and the stored value expires before it has the lock. -/
def slowLookup : List (Action ℕ ℕ ℕ ℕ) :=
  [.alloc 7, .startPut 0 0, .put 0, .startGetOrCompute 0, .readClock 1, .tick 40]

/-- An expired value is read: `get` compares with a time from before the lock. -/
theorem expired_value_is_read :
    ∃ s t, Machine.run (ObjectCache.step 30) (ObjectCache.empty 0) slowLookup = some s ∧
      ObjectCache.step 30 s (.get 1) = some t ∧
      ∃ c ∈ t.calls, ∃ object content expiresAt now,
        c.point = .done (.read object content expiresAt now) ∧ expiresAt ≤ s.clock := by
  refine ⟨_, _, rfl, rfl, ⟨0, .getOrCompute, 0, .done (.read 2 7 30 0), []⟩, ?_, 2, 7, 30, 0, rfl, ?_⟩
  · decide
  · decide

end ConnectionTopology.ObjectCache
