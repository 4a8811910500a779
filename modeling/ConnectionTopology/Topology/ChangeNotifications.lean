import ConnectionTopology.Services.PostgresNotifications
import ConnectionTopology.Topology.CacheClear

/-!
# Changes of other processes

A call of `get_or_compute` shows every change that had been committed when the cache was cleared
for the last time before it. While the listener is connected and has no notification left, these
are all changes since it began to listen. What is committed while it is not connected is never
announced to it, and a value that is older than such a change is served until it expires.
-/
namespace ConnectionTopology

variable {κ V E : Type} [DecidableEq κ]

/-! ## Dated values -/

/-- The value that a call has in hand, and its date. -/
def CachePoint.value? : CachePoint V E → Option (V × ℕ)
  | .storing _ v epoch | .popping _ (.value v epoch) | .signalling _ (.value v epoch)
  | .done (.value v epoch) => some (v, epoch)
  | _ => none

/-- The stored values and those in the hands of calls are related to their dates by `R`, and the
factory runs of the calls to theirs by `B`. -/
structure CacheDated (R : V → ℕ → Prop) (B : ℕ → ℕ → Prop) (s : TopologyCache κ V E) : Prop where
  entries : ∀ key entry, s.entries key = some entry → R entry.value entry.epoch
  values : ∀ (n : ℕ) c v epoch, s.calls[n]? = some c → c.point.value? = some (v, epoch) → R v epoch
  computing : ∀ (n : ℕ) c flight epoch, s.calls[n]? = some c → c.point = .computing flight epoch →
    B n epoch

variable {R R' : V → ℕ → Prop} {B B' : ℕ → ℕ → Prop} {s t : TopologyCache κ V E}

omit [DecidableEq κ] in
theorem CacheDated.mono (h : CacheDated R B s) (hR : ∀ v epoch, R v epoch → R' v epoch)
    (hB : ∀ n epoch, B n epoch → B' n epoch) : CacheDated R' B' s where
  entries := fun key entry hentry => hR _ _ (h.entries key entry hentry)
  values := fun n c v epoch hc hvalue => hR v epoch (h.values n c v epoch hc hvalue)
  computing := fun n c flight epoch hc hpoint => hB n epoch (h.computing n c flight epoch hc hpoint)

omit [DecidableEq κ] in
theorem CacheDated.moveTo (h : CacheDated R B s) {n : ℕ} {c : CacheCall κ V E}
    {point : CachePoint V E} (hcalls : t.calls = s.calls)
    (hentries : ∀ key entry, t.entries key = some entry → R entry.value entry.epoch)
    (hvalue : ∀ v epoch, point.value? = some (v, epoch) → R v epoch)
    (hcomputing : ∀ flight epoch, point = .computing flight epoch → B n epoch) :
    CacheDated R B (t.moveTo n c point) := by
  have hset : ∀ (m : ℕ) d, (t.moveTo n c point).calls[m]? = some d →
      m = n ∧ d = { c with point := point } ∨ s.calls[m]? = some d := by
    intro m d hd
    simp only [TopologyCache.moveTo, hcalls] at hd
    exact (Machine.getElem?_set_cases hd).imp_right And.right
  constructor
  · exact hentries
  · intro m d v epoch hd hpoint
    rcases hset m d hd with ⟨-, rfl⟩ | hold
    · exact hvalue v epoch hpoint
    · exact h.values m d v epoch hold hpoint
  · intro m d flight epoch hd hpoint
    rcases hset m d hd with ⟨rfl, rfl⟩ | hold
    · exact hcomputing flight epoch hpoint
    · exact h.computing m d flight epoch hold hpoint

theorem CacheDated.get (h : CacheDated R B s) (n : ℕ) (c : CacheCall κ V E) (now : ℕ) :
    CacheDated R B (s.get n c now) := by
  unfold TopologyCache.get
  split
  · exact h.moveTo rfl h.entries (by simp [CachePoint.value?]) (by simp)
  · rename_i entry hentry
    split_ifs
    · refine h.moveTo rfl ?_ (by simp [CachePoint.value?]) (by simp)
      intro key e he
      by_cases hkey : key = c.key
      · simp [hkey] at he
      · simp only [Function.update_of_ne hkey] at he
        exact h.entries key e he
    · refine h.moveTo rfl h.entries ?_ (by simp)
      rintro v epoch ⟨⟩
      exact h.entries c.key entry hentry

theorem CacheDated.inspect (h : CacheDated R B s) (n : ℕ) (c : CacheCall κ V E) :
    CacheDated R B (s.inspect n c) := by
  unfold TopologyCache.inspect
  split <;> exact h.moveTo rfl h.entries (by simp [CachePoint.value?]) (by simp)

omit [DecidableEq κ] in
theorem CacheDated.endFactory (h : CacheDated R B s) (n : ℕ) (c : CacheCall κ V E)
    {flight epoch : ℕ} {result : FactoryResult V E} (hvalue : ∀ v, result = .value v → R v epoch) :
    CacheDated R B (s.endFactory n c flight epoch result) := by
  cases result with
  | value v =>
    refine h.moveTo rfl h.entries ?_ (by simp)
    rintro w e ⟨⟩
    exact hvalue v rfl
  | exception e => exact h.moveTo rfl h.entries (by simp [CachePoint.value?]) (by simp)
  | interrupted => exact h.moveTo rfl h.entries (by simp [CachePoint.value?]) (by simp)

theorem CacheDated.callStep {ttl n : ℕ} (h : CacheDated R B s) {c : CacheCall κ V E}
    (hc : s.calls[n]? = some c) {a : CacheAction κ V E} (hcall : a.call? = some n)
    (hbegin : a = .beginFactory n → B n s.clears)
    (hend : ∀ v epoch, a = .endFactory n (.value v) → B n epoch → R v epoch)
    (hstep : s.callStep ttl n c a = some t) : CacheDated R B t := by
  have hkeep : ∀ v epoch, c.point.value? = some (v, epoch) → R v epoch :=
    fun v epoch hpoint => h.values n c v epoch hc hpoint
  cases a with
  | start key => cases hcall
  | clear => cases hcall
  | readClock m now =>
    simp only [TopologyCache.callStep] at hstep
    split at hstep
    · cases hstep
      exact h.moveTo rfl h.entries (by simp [CachePoint.value?]) (by simp)
    · cases hstep
  | get m =>
    simp only [TopologyCache.callStep] at hstep
    split at hstep
    · cases hstep
      exact h.get n c _
    · cases hstep
  | inspect m =>
    simp only [TopologyCache.callStep] at hstep
    split at hstep
    · cases hstep
      exact h.inspect n c
    · cases hstep
  | wake m =>
    simp only [TopologyCache.callStep] at hstep
    split at hstep
    · split at hstep
      · cases hstep
      · rename_i f _
        split_ifs at hstep
        cases hstep
        cases f.error <;>
          exact h.moveTo rfl h.entries (by simp [CachePoint.value?]) (by simp)
    · cases hstep
  | beginFactory m =>
    cases hcall
    simp only [TopologyCache.callStep] at hstep
    split at hstep
    · cases hstep
      refine h.moveTo rfl h.entries (by simp [CachePoint.value?]) ?_
      rintro flight epoch ⟨⟩
      exact hbegin rfl
    · cases hstep
  | endFactory m result =>
    cases hcall
    simp only [TopologyCache.callStep] at hstep
    split at hstep
    · rename_i flight epoch hpoint
      cases hstep
      refine h.endFactory n c ?_
      rintro v rfl
      exact hend v epoch rfl (h.computing n c flight epoch hc hpoint)
    · cases hstep
  | put m now =>
    simp only [TopologyCache.callStep] at hstep
    split at hstep
    · rename_i flight v epoch hpoint
      rw [hpoint] at hkeep
      cases hstep
      refine h.moveTo rfl ?_ hkeep (by simp)
      intro key entry hentry
      by_cases hkey : key = c.key
      · subst hkey
        simp only [Function.update_self] at hentry
        cases hentry
        exact hkeep v epoch rfl
      · simp only [Function.update_of_ne hkey] at hentry
        exact h.entries key entry hentry
    · cases hstep
  | pop m =>
    simp only [TopologyCache.callStep] at hstep
    split at hstep
    · rename_i flight result hpoint
      rw [hpoint] at hkeep
      cases hstep
      refine h.moveTo rfl h.entries ?_ (by simp)
      intro v epoch hvalue
      exact hkeep v epoch (by cases result <;> exact hvalue)
    · cases hstep
  | signal m =>
    simp only [TopologyCache.callStep] at hstep
    split at hstep
    · rename_i flight result hpoint
      rw [hpoint] at hkeep
      cases hstep
      refine h.moveTo rfl h.entries ?_ (by simp)
      intro v epoch hvalue
      exact hkeep v epoch (by cases result <;> exact hvalue)
    · cases hstep

theorem CacheDated.step {ttl : ℕ} (h : CacheDated R B s) {a : CacheAction κ V E}
    (hbegin : ∀ n, a = .beginFactory n → B n s.clears)
    (hend : ∀ n v epoch, a = .endFactory n (.value v) → B n epoch → R v epoch)
    (hstep : s.step ttl a = some t) : CacheDated R B t := by
  unfold TopologyCache.step at hstep
  split at hstep
  · cases hstep
    refine ⟨h.entries, ?_, ?_⟩
    · intro n c v epoch hc hvalue
      rcases Machine.getElem?_append_cases hc with hc | ⟨-, rfl⟩
      · exact h.values n c v epoch hc hvalue
      · cases hvalue
    · intro n c flight epoch hc hpoint
      rcases Machine.getElem?_append_cases hc with hc | ⟨-, rfl⟩
      · exact h.computing n c flight epoch hc hpoint
      · cases hpoint
  · cases hstep
    refine ⟨?_, h.values, h.computing⟩
    intro key entry hentry
    cases hentry
  · split at hstep
    · cases hstep
    · rename_i n hcall
      obtain ⟨c, hc, hstep⟩ := Option.bind_eq_some_iff.mp hstep
      exact h.callStep hc hcall (hbegin n) (hend n) hstep

theorem TopologyCache.callStep_calls {ttl n : ℕ} {c : CacheCall κ V E} {a : CacheAction κ V E}
    (hstep : s.callStep ttl n c a = some t) :
    t.clears = s.clears ∧ ∃ point, t.calls = s.calls.set n { c with point := point } := by
  simp only [TopologyCache.callStep] at hstep
  repeat' split at hstep
  all_goals cases hstep
  all_goals
    first
    | exact ⟨rfl, _, rfl⟩
    | unfold TopologyCache.get
      repeat' split
      all_goals exact ⟨rfl, _, rfl⟩
    | unfold TopologyCache.inspect
      split <;> exact ⟨rfl, _, rfl⟩
    | unfold TopologyCache.endFactory
      split <;> exact ⟨rfl, _, rfl⟩

/-- Calls keep their places and the number of `clear` calls before them. -/
theorem TopologyCache.step_calls {ttl : ℕ} {a : CacheAction κ V E} (hstep : s.step ttl a = some t) :
    (a ≠ .clear → t.clears = s.clears) ∧ ∀ (n : ℕ) c, s.calls[n]? = some c →
      ∃ d, t.calls[n]? = some d ∧ d.startedAfter = c.startedAfter := by
  unfold TopologyCache.step at hstep
  split at hstep
  · cases hstep
    refine ⟨fun _ => rfl, fun n c hc => ⟨c, ?_, rfl⟩⟩
    exact (List.getElem?_append_left (List.getElem?_eq_some_iff.mp hc).1).trans hc
  · cases hstep
    exact ⟨fun ha => absurd rfl ha, fun n c hc => ⟨c, hc, rfl⟩⟩
  · split at hstep
    · cases hstep
    · rename_i m _
      obtain ⟨b, hb, hcall⟩ := Option.bind_eq_some_iff.mp hstep
      obtain ⟨hclears, point, hcalls⟩ := TopologyCache.callStep_calls hcall
      refine ⟨fun _ => hclears, fun n c hc => ?_⟩
      rw [hcalls]
      by_cases hnm : m = n
      · subst hnm
        cases hb.symm.trans hc
        exact ⟨_, List.getElem?_set_self (List.getElem?_eq_some_iff.mp hc).1, rfl⟩
      · exact ⟨c, (List.getElem?_set_ne hnm).trans hc, rfl⟩

/-! ## What the listener has announced -/

/-- The notification of the change is still with the listener. -/
def ListenerPoint.announces (k : ℕ) : ListenerPoint → Prop
  | .listening queue => k ∈ queue
  | .callback change queue => k = change ∨ k ∈ queue
  | _ => True

theorem ListenerPoint.announces_notified (k : ℕ) (p : ListenerPoint) :
    (p.notified k).announces k := by
  cases p <;> simp [ListenerPoint.notified, ListenerPoint.announces]

theorem ListenerPoint.announces.notified {k : ℕ} {p : ListenerPoint} (h : p.announces k)
    (change : ℕ) : (p.notified change).announces k := by
  cases p with
  | listening queue => exact List.mem_append_left _ h
  | callback current queue => exact h.imp_right fun hmem => List.mem_append_left _ hmem
  | _ => trivial

section Process

variable {ttl : ℕ} {p q : CachingProcess κ E}

/-- The changes that had been committed when the cache was cleared for the last time. -/
def CachingProcess.lastCleared (p : CachingProcess κ E) : ℕ := p.clearedUpTo p.cache.clears

/-- A value shows what was committed before the last `clear` before its factory run, and of the
changes since the connection began to listen none is missing. -/
structure ChangeInv (p : CachingProcess κ E) : Prop where
  counted : p.clearedAt.length = p.cache.clears
  committed : ∀ k ∈ p.clearedAt, k ≤ p.changes
  sorted : p.clearedAt.Pairwise (· ≤ ·)
  dated : CacheDated (fun shown epoch => epoch ≤ p.cache.clears ∧ p.clearedUpTo epoch ≤ shown)
    (fun n epoch => epoch ≤ p.cache.clears ∧ p.clearedUpTo epoch ≤ p.readable n) p.cache
  announced : ∀ k, p.listensSince < k → k ≤ p.changes → k ≤ p.lastCleared ∨ p.listener.announces k

omit [DecidableEq κ] in
theorem ChangeInv.initial : ChangeInv ({} : CachingProcess κ E) where
  counted := rfl
  committed := by simp
  sorted := List.Pairwise.nil
  dated := ⟨nofun, by simp, by simp⟩
  announced := fun _ _ _ => Or.inr trivial

omit [DecidableEq κ] in
theorem ChangeInv.clearedUpTo_le (h : ChangeInv p) (epoch : ℕ) :
    p.clearedUpTo epoch ≤ p.changes := by
  unfold CachingProcess.clearedUpTo
  cases hat : (0 :: p.clearedAt)[epoch]? with
  | none => exact Nat.zero_le _
  | some k =>
    rcases List.mem_cons.mp (List.mem_of_getElem? hat) with rfl | hk
    · exact Nat.zero_le _
    · exact h.committed k hk

omit [DecidableEq κ] in
theorem ChangeInv.clearedUpTo_mono (h : ChangeInv p) {d e : ℕ} (hde : d ≤ e)
    (he : e ≤ p.cache.clears) : p.clearedUpTo d ≤ p.clearedUpTo e := by
  rcases Nat.eq_or_lt_of_le hde with rfl | hlt
  · exact le_rfl
  · have hsorted : (0 :: p.clearedAt).Pairwise (· ≤ ·) :=
      List.pairwise_cons.mpr ⟨fun k _ => Nat.zero_le k, h.sorted⟩
    have hlength : e < (0 :: p.clearedAt).length := by
      rw [List.length_cons, h.counted]
      omega
    unfold CachingProcess.clearedUpTo
    rw [List.getElem?_eq_getElem hlength, List.getElem?_eq_getElem (hlt.trans hlength)]
    exact List.pairwise_iff_getElem.mp hsorted d e _ _ hlt

omit [DecidableEq κ] in
/-- A further `clear` dates no earlier one anew. -/
theorem clearedUpTo_append {k epoch : ℕ} (hq : q.clearedAt = p.clearedAt ++ [k])
    (hepoch : epoch ≤ p.clearedAt.length) : q.clearedUpTo epoch = p.clearedUpTo epoch := by
  unfold CachingProcess.clearedUpTo
  rw [hq, ← List.cons_append, List.getElem?_append_left (by rw [List.length_cons]; omega)]

omit [DecidableEq κ] in
/-- Only the listener moves, or a change is committed. -/
theorem ChangeInv.ofListener (h : ChangeInv p) (hcache : q.cache = p.cache)
    (hcleared : q.clearedAt = p.clearedAt) (hreadable : q.readable = p.readable)
    (hchanges : p.changes ≤ q.changes)
    (hannounced : ∀ k, q.listensSince < k → k ≤ q.changes →
      k ≤ p.lastCleared ∨ q.listener.announces k) : ChangeInv q := by
  have hupTo : q.clearedUpTo = p.clearedUpTo := by
    funext epoch
    rw [CachingProcess.clearedUpTo, hcleared, CachingProcess.clearedUpTo]
  constructor
  · rw [hcleared, hcache, h.counted]
  · intro k hk
    exact (h.committed k (hcleared ▸ hk)).trans hchanges
  · rw [hcleared]
    exact h.sorted
  · rw [hcache, hupTo, hreadable]
    exact h.dated
  · intro k hsince hk
    rw [CachingProcess.lastCleared, hupTo, hcache]
    exact hannounced k hsince hk

theorem CachingProcess.cacheStep_cases {a : CacheAction κ ℕ E}
    (hstep : p.cacheStep ttl a = some q) :
    p.mayRead a = true ∧
      ∃ cache, p.cache.step ttl a = some cache ∧ { p.noted a with cache } = q := by
  unfold CachingProcess.cacheStep at hstep
  split_ifs at hstep with hmay
  exact ⟨hmay, Option.map_eq_some_iff.mp hstep⟩

theorem lastCleared_of_clear (h : ChangeInv p) (hstep : p.cacheStep ttl .clear = some q) :
    q.lastCleared = p.changes := by
  obtain ⟨-, cache, hcache, rfl⟩ := CachingProcess.cacheStep_cases hstep
  cases hcache
  simp [CachingProcess.lastCleared, CachingProcess.clearedUpTo, CachingProcess.noted, h.counted]

theorem ChangeInv.clear (h : ChangeInv p) (hstep : p.cacheStep ttl .clear = some q) :
    ChangeInv q := by
  have hlast := lastCleared_of_clear h hstep
  obtain ⟨-, cache, hcache, rfl⟩ := CachingProcess.cacheStep_cases hstep
  have hkept : ∀ epoch, epoch ≤ p.cache.clears →
      ({ p.noted .clear with cache } : CachingProcess κ E).clearedUpTo epoch =
        p.clearedUpTo epoch :=
    fun epoch hepoch => clearedUpTo_append rfl (h.counted ▸ hepoch)
  have hdated := h.dated.step (by simp) (by simp) hcache
  cases hcache
  constructor
  · simp [CachingProcess.noted, h.counted]
  · intro k hk
    rcases List.mem_append.mp hk with hk | hk
    · exact h.committed k hk
    · exact (List.mem_singleton.mp hk).le
  · refine List.pairwise_append.mpr ⟨h.sorted, List.pairwise_singleton _ _, ?_⟩
    intro j hj k hk
    rw [List.mem_singleton.mp hk]
    exact h.committed j hj
  · refine hdated.mono ?_ ?_
    · rintro shown epoch ⟨hepoch, hshown⟩
      exact ⟨hepoch.trans (Nat.le_succ _), (hkept epoch hepoch).trans_le hshown⟩
    · rintro n epoch ⟨hepoch, hreadable⟩
      exact ⟨hepoch.trans (Nat.le_succ _), (hkept epoch hepoch).trans_le hreadable⟩
  · intro k _ hk
    exact Or.inl (hk.trans hlast.ge)

/-- A step of a call; what its factory run may read is recorded. -/
theorem ChangeInv.cacheStep (h : ChangeInv p) {a : CacheAction κ ℕ E} (ha : a ≠ .clear)
    (hstep : p.cacheStep ttl a = some q) : ChangeInv q := by
  obtain ⟨hmay, cache, hcache, rfl⟩ := CachingProcess.cacheStep_cases hstep
  have hclears : cache.clears = p.cache.clears := (TopologyCache.step_calls hcache).1 ha
  have hnoted : p.noted a = { p with readable := (p.noted a).readable } := by
    cases a <;> first | rfl | exact absurd rfl ha
  have hreadable : ∀ n epoch, p.clearedUpTo epoch ≤ p.readable n →
      p.clearedUpTo epoch ≤ (p.noted a).readable n := by
    intro n epoch hle
    cases a with
    | beginFactory m =>
      by_cases hmn : n = m
      · subst hmn
        simpa [CachingProcess.noted] using h.clearedUpTo_le epoch
      · simpa [CachingProcess.noted, Function.update_of_ne hmn] using hle
    | _ => exact hle
  have hbegin : ∀ n, a = .beginFactory n → p.cache.clears ≤ p.cache.clears ∧
      p.clearedUpTo p.cache.clears ≤ (p.noted a).readable n := by
    rintro n rfl
    refine ⟨le_rfl, ?_⟩
    simpa [CachingProcess.noted] using h.clearedUpTo_le p.cache.clears
  have hend : ∀ n shown epoch, a = .endFactory n (.value shown) →
      epoch ≤ p.cache.clears ∧ p.clearedUpTo epoch ≤ (p.noted a).readable n →
      epoch ≤ p.cache.clears ∧ p.clearedUpTo epoch ≤ shown := by
    rintro n shown epoch rfl ⟨hepoch, hread⟩
    exact ⟨hepoch, hread.trans (of_decide_eq_true hmay).1⟩
  have hdated := (h.dated.mono (fun _ _ => id) fun n epoch hB =>
    ⟨hB.1, hreadable n epoch hB.2⟩).step hbegin hend hcache
  rw [hnoted]
  constructor
  · exact h.counted.trans hclears.symm
  · exact h.committed
  · exact h.sorted
  · rw [← hclears] at hdated
    exact hdated
  · intro k hsince hk
    have hlast := h.announced k hsince hk
    rw [CachingProcess.lastCleared, ← hclears] at hlast
    exact hlast

theorem ChangeInv.step (h : ChangeInv p) {a : CachingAction κ E} (hstep : p.step ttl a = some q) :
    ChangeInv q := by
  cases a with
  | cache b =>
    by_cases hb : b = .clear
    · subst hb
      exact h.clear hstep
    · exact h.cacheStep hb hstep
  | commit =>
    cases hstep
    refine h.ofListener rfl rfl rfl (Nat.le_succ _) fun k hsince hk => ?_
    rcases Nat.eq_or_lt_of_le hk with rfl | hlt
    · exact Or.inr (p.listener.announces_notified _)
    · exact (h.announced k hsince (Nat.le_of_lt_succ hlt)).imp_right fun hbefore =>
        hbefore.notified _
  | start =>
    simp only [CachingProcess.step] at hstep
    split_ifs at hstep <;> cases hstep
    · exact h.ofListener rfl rfl rfl le_rfl fun _ _ _ => Or.inr trivial
    · exact h
  | shutdown =>
    simp only [CachingProcess.step] at hstep
    split_ifs at hstep <;> cases hstep
    · exact h
    · exact h.ofListener rfl rfl rfl le_rfl h.announced
  | check =>
    simp only [CachingProcess.step] at hstep
    split_ifs at hstep <;> cases hstep <;>
      exact h.ofListener rfl rfl rfl le_rfl fun _ _ _ => Or.inr trivial
  | listen =>
    simp only [CachingProcess.step] at hstep
    split_ifs at hstep
    cases hstep
    refine h.ofListener rfl rfl rfl le_rfl fun k hsince hk => ?_
    exact absurd hk (Nat.not_le_of_lt hsince)
  | receive =>
    simp only [CachingProcess.step] at hstep
    split at hstep
    · rename_i change queue hp
      cases hstep
      refine h.ofListener rfl rfl rfl le_rfl fun k hsince hk => ?_
      have hbefore := h.announced k hsince hk
      rw [hp] at hbefore
      exact hbefore.imp_right List.mem_cons.mp
    · cases hstep
  | callBack =>
    simp only [CachingProcess.step] at hstep
    split at hstep
    · obtain ⟨r, hclear, rfl⟩ := Option.map_eq_some_iff.mp hstep
      have hr := h.clear hclear
      refine hr.ofListener rfl rfl rfl le_rfl fun k _ hk => Or.inl ?_
      rw [lastCleared_of_clear h hclear]
      obtain ⟨-, cache, -, rfl⟩ := CachingProcess.cacheStep_cases hclear
      exact hk
    · cases hstep
  | loseConnection =>
    simp only [CachingProcess.step] at hstep
    split at hstep <;> cases hstep <;>
      exact h.ofListener rfl rfl rfl le_rfl fun _ _ _ => Or.inr trivial
  | leave =>
    simp only [CachingProcess.step] at hstep
    split at hstep
    · split_ifs at hstep
      cases hstep
      exact h.ofListener rfl rfl rfl le_rfl fun _ _ _ => Or.inr trivial
    · cases hstep
  | retry =>
    simp only [CachingProcess.step] at hstep
    split_ifs at hstep
    cases hstep
    exact h.ofListener rfl rfl rfl le_rfl fun _ _ _ => Or.inr trivial
  | join =>
    simp only [CachingProcess.step] at hstep
    split_ifs at hstep
    cases hstep
    exact h.ofListener rfl rfl rfl le_rfl fun _ _ _ => Or.inr trivial

/-! ## Runs -/

/-- A value is stored only when no `clear` came after the start of its factory run. -/
def CachingProcess.storesInTime (p : CachingProcess κ E) : CachingAction κ E → Bool
  | .cache a => storesBeforeClear p.cache a
  | _ => true

theorem CachingProcess.step_cache {a : CachingAction κ E} (hstep : p.step ttl a = some q) :
    (q.cache = p.cache ∧ q.clearedAt = p.clearedAt) ∨
      ∃ b r, p.cacheStep ttl b = some r ∧ (q.cache = r.cache ∧ q.clearedAt = r.clearedAt) ∧
        (a = .cache b ∨ b = .clear) := by
  cases a with
  | cache b => exact Or.inr ⟨b, q, hstep, ⟨rfl, rfl⟩, Or.inl rfl⟩
  | callBack =>
    simp only [CachingProcess.step] at hstep
    split at hstep
    · obtain ⟨r, hclear, rfl⟩ := Option.map_eq_some_iff.mp hstep
      exact Or.inr ⟨.clear, r, hclear, ⟨rfl, rfl⟩, Or.inr rfl⟩
    · cases hstep
  | _ =>
    left
    simp only [CachingProcess.step] at hstep
    repeat' split at hstep
    all_goals cases hstep
    all_goals exact ⟨rfl, rfl⟩

theorem CachingProcess.fresh_step (h : CacheFresh p.cache) {a : CachingAction κ E}
    (hstores : p.storesInTime a = true) (hstep : p.step ttl a = some q) : CacheFresh q.cache := by
  rcases CachingProcess.step_cache hstep with ⟨hsame, -⟩ | ⟨b, r, hr, ⟨hcache, -⟩, ha⟩
  · rw [hsame]
    exact h
  · have hb : storesBeforeClear p.cache b = true := by
      rcases ha with rfl | rfl
      · exact hstores
      · rfl
    obtain ⟨-, cache, hstep, rfl⟩ := CachingProcess.cacheStep_cases hr
    rw [hcache]
    exact h.step hb hstep

/-- The call has started after the first `epoch` calls of `clear`, the last of which came when `k`
changes had been committed. -/
structure CachingProcess.Follows (p : CachingProcess κ E) (n epoch k : ℕ) : Prop where
  counted : epoch ≤ p.clearedAt.length
  date : p.clearedUpTo epoch = k
  call : ∃ c, p.cache.calls[n]? = some c ∧ c.startedAfter = epoch

theorem CachingProcess.Follows.step {n epoch k : ℕ} (h : p.Follows n epoch k)
    {a : CachingAction κ E} (hstep : p.step ttl a = some q) : q.Follows n epoch k := by
  obtain ⟨c, hc, hstarted⟩ := h.call
  rcases CachingProcess.step_cache hstep with ⟨hcache, hcleared⟩ | ⟨b, r, hr, ⟨hcache, hcleared⟩, -⟩
  · refine ⟨hcleared ▸ h.counted, ?_, c, hcache ▸ hc, hstarted⟩
    rw [CachingProcess.clearedUpTo, hcleared]
    exact h.date
  · obtain ⟨-, cache, hstep, rfl⟩ := CachingProcess.cacheStep_cases hr
    obtain ⟨d, hd, hsame⟩ := (TopologyCache.step_calls hstep).2 n c hc
    have hgrows : q.clearedAt = p.clearedAt ∨ q.clearedAt = p.clearedAt ++ [p.changes] := by
      rw [hcleared]
      cases b <;> first | exact Or.inl rfl | exact Or.inr rfl
    refine ⟨?_, ?_, d, hcache ▸ hd, hsame.trans hstarted⟩
    · have hcounted := h.counted
      rcases hgrows with hgrows | hgrows
      · rw [hgrows]
        exact hcounted
      · rw [hgrows, List.length_append]
        omega
    · rcases hgrows with hgrows | hgrows
      · rw [CachingProcess.clearedUpTo, hgrows]
        exact h.date
      · exact (clearedUpTo_append hgrows h.counted).trans h.date

/-- In every run of a process and every order of its calls, of commits and of the steps of its
listener. -/
theorem changes_are_shown {before after : List (CachingAction κ E)} {key : κ}
    (hbefore : Machine.run (CachingProcess.step ttl) {} before = some p)
    (hafter : Machine.run (CachingProcess.step ttl) p (.cache (.start key) :: after) = some q)
    (hstores : Machine.Meets (CachingProcess.step ttl) (fun p a => p.storesInTime a = true) {}
      (before ++ .cache (.start key) :: after))
    {c : CacheCall κ ℕ E} {shown epoch : ℕ}
    (hcall : q.cache.calls[p.cache.calls.length]? = some c)
    (hdone : c.point = .done (.value shown epoch)) :
    ∀ k ≤ p.changes, k ≤ p.lastCleared ∨ p.listener = .listening [] ∧ p.listensSince < k →
      k ≤ shown := by
  have hrun : Machine.run (CachingProcess.step ttl) {} (before ++ .cache (.start key) :: after) =
      some q := by
    rw [Machine.run_append, hbefore]
    exact hafter
  have hp : ChangeInv p :=
    Machine.run_invariant ChangeInv (fun _ _ _ hs hstep => hs.step hstep) ChangeInv.initial hbefore
  have hq : ChangeInv q :=
    Machine.run_invariant ChangeInv (fun _ _ _ hs hstep => hs.step hstep) ChangeInv.initial hrun
  have hfresh : CacheFresh q.cache :=
    Machine.run_invariant_of_meets (fun p : CachingProcess κ E => CacheFresh p.cache)
      (fun _ _ _ hs ha hstep => CachingProcess.fresh_step hs ha hstep) _ {} q
      (by constructor <;> simp) hstores hrun
  obtain ⟨r, hstart, hrest⟩ := Option.bind_eq_some_iff.mp hafter
  have hfollows : r.Follows p.cache.calls.length p.cache.clears p.lastCleared := by
    cases hstart
    exact ⟨hp.counted.ge, rfl, _, List.getElem?_concat_length, rfl⟩
  have hlater : q.Follows p.cache.calls.length p.cache.clears p.lastCleared :=
    Machine.run_invariant (fun p' : CachingProcess κ E => p'.Follows _ _ _)
      (fun _ _ _ hs hstep => hs.step hstep) hfollows hrest
  obtain ⟨d, hd, hstarted⟩ := hlater.call
  cases hd.symm.trans hcall
  have hshown := hq.dated.values _ c shown epoch hcall (by rw [hdone]; rfl)
  have hnew : c.startedAfter ≤ epoch :=
    hfresh.values c (List.mem_of_getElem? hcall) epoch (by rw [hdone]; rfl)
  have hcleared : p.lastCleared ≤ shown :=
    calc p.lastCleared = q.clearedUpTo c.startedAfter := by rw [hstarted, hlater.date]
      _ ≤ q.clearedUpTo epoch := hq.clearedUpTo_mono hnew hshown.1
      _ ≤ shown := hshown.2
  rintro k hk (hlast | ⟨hidle, hsince⟩)
  · exact hlast.trans hcleared
  · rcases hp.announced k hsince hk with hlast | hannounced
    · exact hlast.trans hcleared
    · rw [hidle] at hannounced
      cases hannounced

end Process

/-- A value is computed and stored while the listener is connected. -/
def storedWhileListening : List (CachingAction ℕ ℕ) :=
  [.start, .check, .listen, .cache (.start 0), .cache (.readClock 0 0), .cache (.get 0),
    .cache (.inspect 0), .cache (.beginFactory 0), .cache (.endFactory 0 (.value 0)),
    .cache (.put 0 1), .cache (.pop 0), .cache (.signal 0)]

/-- The rest of a second call, which finds nothing. -/
def computedAgain : List (CachingAction ℕ ℕ) :=
  [.cache (.readClock 1 2), .cache (.get 1), .cache (.inspect 1), .cache (.beginFactory 1),
    .cache (.endFactory 1 (.value 1)), .cache (.put 1 3), .cache (.pop 1), .cache (.signal 1)]

theorem announced_change_is_shown :
    ∃ p q, Machine.run (CachingProcess.step 300) {}
        (storedWhileListening ++ [.commit, .receive, .callBack]) = some p ∧ p.changes = 1 ∧
      Machine.run (CachingProcess.step 300) p (.cache (.start 0) :: computedAgain) = some q ∧
      ∃ c shown epoch, q.cache.calls[1]? = some c ∧ c.point = .done (.value shown epoch) ∧
        1 ≤ shown := by
  obtain ⟨p, hp⟩ : ∃ p, Machine.run (CachingProcess.step 300) {}
    (storedWhileListening ++ [.commit, .receive, .callBack]) = some p := ⟨_, rfl⟩
  obtain ⟨q, hq⟩ : ∃ q, Machine.run (CachingProcess.step 300) p
      (.cache (.start 0) :: computedAgain) = some q := by
    cases hp
    exact ⟨_, rfl⟩
  have hstores : Machine.Meets (CachingProcess.step 300) (fun p a => p.storesInTime a = true) {}
      (storedWhileListening ++ [.commit, .receive, .callBack] ++
        .cache (.start 0) :: computedAgain) := by decide
  have hstate : p.changes = 1 ∧ p.lastCleared = 1 ∧ p.cache.calls.length = 1 := by
    cases hp
    decide
  obtain ⟨hchanges, hlast, hlength⟩ := hstate
  obtain ⟨c, hc, hdone⟩ : ∃ c, q.cache.calls[1]? = some c ∧ c.point = .done (.value 1 1) := by
    cases hp
    cases hq
    exact ⟨_, rfl, rfl⟩
  refine ⟨p, q, hp, hchanges, hq, c, 1, 1, hc, hdone, ?_⟩
  exact changes_are_shown hp hq hstores (hlength ▸ hc) hdone 1 hchanges.ge (Or.inl hlast.ge)

/-- The change is committed while the listener waits to connect again. -/
def committedBetweenConnections : List (CachingAction ℕ ℕ) :=
  storedWhileListening ++ [.loseConnection, .commit, .retry, .check, .listen, .cache (.start 0),
    .cache (.readClock 1 2), .cache (.get 1)]

/-- No one announces it, and a call that starts after it is served the value from before it. -/
theorem missed_change_is_not_shown :
    ∃ q, Machine.run (CachingProcess.step 300) {} committedBetweenConnections = some q ∧
      q.listener = .listening [] ∧ q.changes = 1 ∧
      q.cache.calls.map (·.point) = [.done (.value 0 0), .done (.value 0 0)] := by
  obtain ⟨q, hq⟩ : ∃ q, Machine.run (CachingProcess.step 300) {} committedBetweenConnections =
    some q := ⟨_, rfl⟩
  refine ⟨q, hq, ?_⟩
  cases hq
  decide

end ConnectionTopology
