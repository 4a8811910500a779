import ConnectionTopology.Services.TransactionSlots

/-!
# The admission depth of a thread

The depth counts the calls of the thread that are past `_admit_transaction`, and the outermost of
them has the permit. Each step of a thread keeps this, unless an exception strikes between
`slots.acquire()` and the `try` or in the `finally` clause.
-/
namespace ConnectionTopology.TransactionSlots

variable {β δ E R : Type}

/-! ## One admission -/

/-- What `_admit_transaction` does at the given depth. -/
def admissionAt : ℕ → Admission
  | 0 => .outermost
  | depth + 1 => .nested (depth + 1)

/-- The depth of the thread fits a call made at depth `below`. -/
def AdmitPoint.Fits (below depth : ℕ) : AdmitPoint β E R → Prop
  | .admits => depth = below
  | .acquires | .acquired | .releases _ => below = 0 ∧ depth = 0
  | .inside admission _ | .leaves admission _ => admission = admissionAt below ∧ depth = below + 1

def AdmitPoint.holds : AdmitPoint β E R → Bool
  | .acquired | .releases _ | .inside .outermost _ | .leaves .outermost _ => true
  | _ => false

/-- Past `slots.acquire()` and before the `try`, or in the `finally` clause. -/
def AdmitPoint.isExposed : AdmitPoint β E R → Bool
  | .acquired | .leaves _ _ | .releases _ => true
  | _ => false

/-- Between `slots.acquire()` and `depth = 1`, or between `depth = 0` and `slots.release()`. -/
def AdmitPoint.isSwitching : AdmitPoint β E R → Bool
  | .acquired | .releases _ => true
  | _ => false

/-- The permits that the attempt may still acquire. -/
def AdmitPoint.budget : AdmitPoint β E R → ℕ
  | .admits | .acquires => 1
  | _ => 0

/-- What a move does to the semaphore's value and to the permit of the thread. -/
def Move.Trades (m : Move E R) (slots slots' : ℕ) (before after : Bool) : Prop :=
  match m with
  | .acquire => slots = slots' + 1 ∧ before = false ∧ after = true
  | .release => slots' = slots + 1 ∧ before = true ∧ after = false
  | _ => slots' = slots ∧ after = before

def Move.isAcquire : Move E R → Bool
  | .acquire => true
  | _ => false

def Move.isCall : Move E R → Bool
  | .guard _ | .run _ => true
  | _ => false

def Move.isRaise : Move E R → Bool
  | .raise _ => true
  | _ => false

/-- No body touches the semaphore. -/
def IsBody (body : β → Move E R → Option (β ⊕ Outcome E R)) : Prop :=
  ∀ b, body b .acquire = none ∧ body b .release = none

theorem isBody_guardedBlock : IsBody (guardedBlock (E := E) (R := R)) := fun _ => ⟨rfl, rfl⟩

theorem isBody_transaction : IsBody (Transaction.step (E := E) (R := R)) := by
  intro b
  cases b <;> exact ⟨rfl, rfl⟩

theorem Move.trades_of_body {body : β → Move E R → Option (β ⊕ Outcome E R)} (hbody : IsBody body)
    {b : β} {m : Move E R} {r : β ⊕ Outcome E R} (h : body b m = some r) (slots : ℕ) (held : Bool) :
    m.Trades slots slots held held ∧ m.isAcquire = false ∧ m ≠ .release := by
  cases m with
  | acquire => simp [(hbody b).1] at h
  | release => simp [(hbody b).2] at h
  | _ => exact ⟨⟨rfl, rfl⟩, rfl, by simp⟩

section Admit
variable {capacity slots slots' depth depth' below : ℕ} {start : β}
  {body : β → Move E R → Option (β ⊕ Outcome E R)} {p q : AdmitPoint β E R} {m : Move E R}
  {outcome : Outcome E R}

/-- The rules of `with self._admit_transaction():` when there is a semaphore. -/
inductive AdmitPoint.Steps (capacity slots depth : ℕ) (start : β)
    (body : β → Move E R → Option (β ⊕ Outcome E R)) :
    AdmitPoint β E R → Move E R → ℕ → ℕ → AdmitPoint β E R ⊕ Outcome E R → Prop
  | nests (hdepth : depth ≠ 0) : Steps capacity slots depth start body .admits .readDepth
      slots (depth + 1) (.inl (.inside (.nested depth) start))
  | asks (hdepth : depth = 0) : Steps capacity slots depth start body .admits .readDepth
      slots depth (.inl .acquires)
  | acquires (hslots : slots ≠ 0) : Steps capacity slots depth start body .acquires .acquire
      (slots - 1) depth (.inl .acquired)
  | enters : Steps capacity slots depth start body .acquired .enter
      slots 1 (.inl (.inside .outermost start))
  | leavesUnlimited (outcome : Outcome E R) : Steps capacity slots depth start body
      (.leaves .unlimited outcome) .leave slots depth (.inr outcome)
  | leavesNested (saved : ℕ) (outcome : Outcome E R) : Steps capacity slots depth start body
      (.leaves (.nested saved) outcome) .leave slots saved (.inr outcome)
  | leavesOutermost (outcome : Outcome E R) : Steps capacity slots depth start body
      (.leaves .outermost outcome) .leave slots 0 (.inl (.releases outcome))
  | releases (outcome : Outcome E R) (hslots : slots < capacity) :
      Steps capacity slots depth start body (.releases outcome) .release
        (slots + 1) depth (.inr outcome)
  | bodyGoesOn {m : Move E R} (admission : Admission) (b c : β) (hbody : body b m = some (.inl c)) :
      Steps capacity slots depth start body (.inside admission b) m
        slots depth (.inl (.inside admission c))
  | bodyEnds {m : Move E R} (admission : Admission) (b : β) (outcome : Outcome E R)
      (hbody : body b m = some (.inr outcome)) :
      Steps capacity slots depth start body (.inside admission b) m
        slots depth (.inl (.leaves admission outcome))
  | raises (p : AdmitPoint β E R) (failure : Failure E) (hp : ∀ admission b, p ≠ .inside admission b) :
      Steps capacity slots depth start body p (.raise failure) slots depth (.inr (.error failure))

theorem AdmitPoint.steps_of_step {r : AdmitPoint β E R ⊕ Outcome E R}
    (h : p.step (some capacity) slots depth start body m = some (slots', depth', r)) :
    p.Steps capacity slots depth start body m slots' depth' r := by
  unfold AdmitPoint.step at h
  split at h
  · dsimp only at h
    split_ifs at h with hdepth
    · cases h
      exact .nests hdepth
    · cases h
      exact .asks (not_not.mp hdepth)
  · split_ifs at h with hslots
    cases h
    exact .acquires hslots
  · cases h
    exact .enters
  · cases h
    exact .leavesUnlimited _
  · cases h
    exact .leavesNested _ _
  · cases h
    exact .leavesOutermost _
  · split_ifs at h with hslots
    cases h
    exact .releases _ (by simpa using hslots)
  · obtain ⟨r, hr, hnext⟩ := Option.map_eq_some_iff.mp h
    cases r with
    | inl c =>
      cases hnext
      exact .bodyGoesOn _ _ _ hr
    | inr outcome =>
      cases hnext
      exact .bodyEnds _ _ _ hr
  · rename_i hp
    cases h
    exact .raises _ _ fun admission b hinside => hp admission b hinside
  · cases h

theorem admissionAt_eq_outermost {n : ℕ} (h : Admission.outermost = admissionAt n) : n = 0 := by
  cases n with
  | zero => rfl
  | succ n => cases h

/-- A step that stays in the `with` statement. -/
theorem AdmitPoint.step_inl (hbody : IsBody body) (hfits : p.Fits below depth)
    (h : p.step (some capacity) slots depth start body m = some (slots', depth', .inl q)) :
    q.Fits below depth' ∧ m.Trades slots slots' p.holds q.holds ∧
      (m.isAcquire = true ∨ m = .release → below = 0) ∧
      (if m.isAcquire then 1 else 0) + q.budget ≤ p.budget := by
  cases AdmitPoint.steps_of_step h with
  | nests hdepth =>
    have hbelow : depth = below := hfits
    refine ⟨⟨?_, by rw [hbelow]⟩, ⟨rfl, rfl⟩, by simp [Move.isAcquire], by
      simp [Move.isAcquire, AdmitPoint.budget]⟩
    rw [← hbelow]
    cases depth with
    | zero => exact absurd rfl hdepth
    | succ n => rfl
  | asks hdepth =>
    have hbelow : depth = below := hfits
    exact ⟨⟨hbelow.symm.trans hdepth, hdepth⟩, ⟨rfl, rfl⟩, by simp [Move.isAcquire], by
      simp [Move.isAcquire, AdmitPoint.budget]⟩
  | acquires hslots => exact ⟨hfits, ⟨by omega, rfl, rfl⟩, fun _ => hfits.1, le_rfl⟩
  | enters =>
    obtain ⟨rfl, rfl⟩ := hfits
    exact ⟨⟨rfl, rfl⟩, ⟨rfl, rfl⟩, fun _ => rfl, by simp [Move.isAcquire, AdmitPoint.budget]⟩
  | leavesOutermost outcome =>
    exact ⟨⟨admissionAt_eq_outermost hfits.1, rfl⟩, ⟨rfl, rfl⟩, by simp [Move.isAcquire], by
      simp [Move.isAcquire, AdmitPoint.budget]⟩
  | bodyGoesOn admission b c hb =>
    obtain ⟨htrades, hacquire, hrelease⟩ := Move.trades_of_body hbody hb slots
      (AdmitPoint.holds (.inside admission b : AdmitPoint β E R))
    refine ⟨hfits, ?_, by simp [hacquire, hrelease], by simp [hacquire, AdmitPoint.budget]⟩
    cases admission <;> exact htrades
  | bodyEnds admission b outcome hb =>
    obtain ⟨htrades, hacquire, hrelease⟩ := Move.trades_of_body hbody hb slots
      (AdmitPoint.holds (.inside admission b : AdmitPoint β E R))
    refine ⟨hfits, ?_, by simp [hacquire, hrelease], by simp [hacquire, AdmitPoint.budget]⟩
    cases admission <;> exact htrades

/-- A step that ends the `with` statement. One that is outermost ends without an exception only
at `slots.release()`. -/
theorem AdmitPoint.step_inr (hfits : p.Fits below depth)
    (hsheltered : m.isRaise = true → p.isExposed = false)
    (h : p.step (some capacity) slots depth start body m = some (slots', depth', .inr outcome)) :
    depth' = below ∧ m.Trades slots slots' p.holds false ∧ m.isAcquire = false ∧
      (m = .release → below = 0) ∧
      (below = 0 → ∀ result, outcome = .ok result → m = .release) := by
  cases AdmitPoint.steps_of_step h with
  | leavesUnlimited outcome =>
    obtain ⟨hadmission, -⟩ := hfits
    cases below <;> cases hadmission
  | leavesNested saved outcome =>
    obtain ⟨hadmission, -⟩ := hfits
    cases below with
    | zero => cases hadmission
    | succ n =>
      cases hadmission
      exact ⟨rfl, ⟨rfl, rfl⟩, rfl, by simp, by simp⟩
  | releases outcome hslots =>
    obtain ⟨rfl, rfl⟩ := hfits
    exact ⟨rfl, ⟨rfl, rfl, rfl⟩, rfl, fun _ => rfl, fun _ _ _ => rfl⟩
  | raises p failure hp =>
    have hexposed := hsheltered rfl
    cases p with
    | admits => exact ⟨hfits, ⟨rfl, rfl⟩, rfl, by simp, by simp⟩
    | acquires =>
      obtain ⟨rfl, rfl⟩ := hfits
      exact ⟨rfl, ⟨rfl, rfl⟩, rfl, by simp, by simp⟩
    | inside admission b => exact absurd rfl (hp admission b)
    | acquired | leaves | releases => cases hexposed

end Admit

/-! ## One call -/

def Frame.Fits (below depth : ℕ) : Frame δ E R → Prop
  | .guard _ point => point.Fits below depth
  | .run _ _ _ point => below = 0 ∧ point.Fits below depth
  | .handles .. | .sleeps .. => below = 0 ∧ depth = 0

def Frame.holds : Frame δ E R → Bool
  | .guard _ point => point.holds
  | .run _ _ _ point => point.holds
  | .handles .. | .sleeps .. => false

def Frame.isExposed : Frame δ E R → Bool
  | .guard _ point => point.isExposed
  | .run _ _ _ point => point.isExposed
  | .handles .. | .sleeps .. => false

def Frame.isSwitching : Frame δ E R → Bool
  | .guard _ point => point.isSwitching
  | .run _ _ _ point => point.isSwitching
  | .handles .. | .sleeps .. => false

/-- Blocked in `slots.acquire()`, or about to be. -/
def Frame.isWaiting : Frame δ E R → Bool
  | .guard _ .acquires | .run _ _ _ .acquires => true
  | _ => false

def Frame.isSleeping : Frame δ E R → Bool
  | .sleeps .. => true
  | _ => false

/-- Before `slots.release()`. -/
def Frame.isReleasing : Frame δ E R → Bool
  | .guard _ (.releases _) | .run _ _ _ (.releases _) => true
  | _ => false

/-- The permits that the call may still acquire, one for each attempt. -/
def Frame.budget (retries : ℕ) : Frame δ E R → ℕ
  | .guard _ point => point.budget
  | .run _ attempt _ point => retries - attempt + point.budget
  | .handles _ attempt _ _ | .sleeps _ attempt _ => retries - attempt

section Call
variable {retryDelays : List δ} {capacity slots slots' depth depth' below : ℕ}
  {f g : Frame δ E R} {m : Move E R} {ended : Ended E R}

/-- A step that stays in the call. -/
theorem Frame.step_inl (hfits : f.Fits below depth)
    (hsheltered : m.isRaise = true → f.isExposed = false)
    (h : f.step ⟨retryDelays, some capacity⟩ slots depth m = some (slots', depth', .inl g)) :
    g.Fits below depth' ∧ m.Trades slots slots' f.holds g.holds ∧
      (m.isAcquire = true ∨ m = .release → below = 0) ∧
      (if m.isAcquire then 1 else 0) + g.budget retryDelays.length ≤
        f.budget retryDelays.length := by
  cases f with
  | guard name point =>
    obtain ⟨⟨slots₁, depth₁, r⟩, hr, hnext⟩ := Option.map_eq_some_iff.mp h
    rcases r with q | result | failure
    · cases hnext
      exact AdmitPoint.step_inl isBody_guardedBlock hfits hr
    · cases hnext
    · cases hnext
  | run name attempt session point =>
    obtain ⟨⟨slots₁, depth₁, r⟩, hr, hnext⟩ := Option.map_eq_some_iff.mp h
    rcases r with q | failure | result
    · cases hnext
      obtain ⟨hq, htrades, -, hbudget⟩ := AdmitPoint.step_inl isBody_transaction hfits.2 hr
      refine ⟨⟨hfits.1, hq⟩, htrades, fun _ => hfits.1, ?_⟩
      simp only [Frame.budget]
      omega
    · -- the attempt has failed
      cases hnext
      obtain ⟨hdepth, htrades, hacquire, -, -⟩ := AdmitPoint.step_inr hfits.2 hsheltered hr
      refine ⟨⟨hfits.1, hdepth.trans hfits.1⟩, htrades, fun _ => hfits.1, ?_⟩
      simp [Frame.budget, hacquire]
    · cases hnext
  | handles name attempt session failure =>
    unfold Frame.step at h
    dsimp only at h
    split at h
    · split at h
      · cases h
      · split at h
        · cases h
        · cases h
          exact ⟨hfits, ⟨rfl, rfl⟩, fun _ => hfits.1, by simp [Frame.budget, Move.isAcquire]⟩
    · cases h
    · cases h
  | sleeps name attempt delay =>
    unfold Frame.step at h
    dsimp only at h
    split at h
    · split_ifs at h with hlt
      · cases h
        refine ⟨⟨hfits.1, hfits.2.trans hfits.1.symm⟩, ⟨rfl, rfl⟩, fun _ => hfits.1, ?_⟩
        simp only [Frame.budget, AdmitPoint.budget, Move.isAcquire, Bool.false_eq_true, if_false]
        omega
      · cases h
    · cases h
    · cases h

/-- A step that ends a call. One that is outermost returns only at `slots.release()`. -/
theorem Frame.step_inr (hfits : f.Fits below depth)
    (hsheltered : m.isRaise = true → f.isExposed = false)
    (h : f.step ⟨retryDelays, some capacity⟩ slots depth m = some (slots', depth', .inr ended)) :
    depth' = below ∧ m.Trades slots slots' f.holds false ∧ m.isAcquire = false ∧
      (m = .release → below = 0) ∧
      (below = 0 → ∀ result, ended = .returned result → m = .release) := by
  cases f with
  | guard name point =>
    obtain ⟨⟨slots₁, depth₁, r⟩, hr, hnext⟩ := Option.map_eq_some_iff.mp h
    rcases r with q | failure | result
    · cases hnext
    · cases hnext
      obtain ⟨hdepth, htrades, hacquire, hrelease, -⟩ := AdmitPoint.step_inr hfits hsheltered hr
      exact ⟨hdepth, htrades, hacquire, hrelease, by simp⟩
    · cases hnext
      obtain ⟨hdepth, htrades, hacquire, hrelease, hok⟩ := AdmitPoint.step_inr hfits hsheltered hr
      exact ⟨hdepth, htrades, hacquire, hrelease, fun hbelow _ _ => hok hbelow result rfl⟩
  | run name attempt session point =>
    obtain ⟨⟨slots₁, depth₁, r⟩, hr, hnext⟩ := Option.map_eq_some_iff.mp h
    rcases r with q | failure | result
    · cases hnext
    · cases hnext
    · cases hnext
      obtain ⟨hdepth, htrades, hacquire, hrelease, hok⟩ :=
        AdmitPoint.step_inr hfits.2 hsheltered hr
      exact ⟨hdepth, htrades, hacquire, hrelease, fun hbelow _ _ => hok hbelow result rfl⟩
  | handles name attempt session failure =>
    have hdepth : depth = below := hfits.2.trans hfits.1.symm
    unfold Frame.step at h
    dsimp only at h
    split at h
    · split at h
      · cases h
        exact ⟨hdepth, ⟨rfl, rfl⟩, rfl, fun _ => hfits.1, by simp⟩
      · split at h
        · cases h
          exact ⟨hdepth, ⟨rfl, rfl⟩, rfl, fun _ => hfits.1, by simp⟩
        · cases h
    · cases h
      exact ⟨hdepth, ⟨rfl, rfl⟩, rfl, fun _ => hfits.1, by simp⟩
    · cases h
  | sleeps name attempt delay =>
    have hdepth : depth = below := hfits.2.trans hfits.1.symm
    unfold Frame.step at h
    dsimp only at h
    split at h
    · split_ifs at h
      · cases h
      · cases h
        exact ⟨hdepth, ⟨rfl, rfl⟩, rfl, fun _ => hfits.1, by simp⟩
    · cases h
      exact ⟨hdepth, ⟨rfl, rfl⟩, rfl, fun _ => hfits.1, by simp⟩
    · cases h

end Call

/-! ## One thread -/

/-- Calls around a call: the thread is in user code, past the admission of each. -/
def Callers : List (Frame δ E R) → Prop
  | [] => True
  | f :: rest => f.inUserCode = true ∧ f.Fits rest.length (rest.length + 1) ∧ Callers rest

/-- The depth is that of the calls in progress. -/
def RunnerThread.Nested (t : RunnerThread δ E R) : Prop :=
  match t.calls with
  | [] => t.depth = 0
  | f :: rest => f.Fits rest.length t.depth ∧ Callers rest

def RunnerThread.holds (t : RunnerThread δ E R) : Bool := t.calls.any Frame.holds

def RunnerThread.isSwitching (t : RunnerThread δ E R) : Bool := t.calls.head?.any Frame.isSwitching

def RunnerThread.isWaiting (t : RunnerThread δ E R) : Bool := t.calls.head?.any Frame.isWaiting

def RunnerThread.isSleeping (t : RunnerThread δ E R) : Bool := t.calls.head?.any Frame.isSleeping

def RunnerThread.isReleasing (t : RunnerThread δ E R) : Bool := t.calls.head?.any Frame.isReleasing

/-- The move does not raise between `slots.acquire()` and the `try`, nor in the `finally`
clause. -/
def RunnerThread.shelters (t : RunnerThread δ E R) (m : Move E R) : Bool :=
  !(m.isRaise && t.calls.head?.any Frame.isExposed)

/-- The permits that the outermost call in progress may still acquire. -/
def RunnerThread.budget (retries : ℕ) (t : RunnerThread δ E R) : ℕ :=
  t.calls.getLast?.elim 0 (Frame.budget retries)

theorem Frame.exists_inside {f : Frame δ E R} {below depth : ℕ} (huser : f.inUserCode = true)
    (hfits : f.Fits below depth) :
    depth = below + 1 ∧ f.holds = decide (admissionAt below = .outermost) := by
  unfold Frame.inUserCode at huser
  split at huser
  · obtain ⟨rfl, hdepth⟩ := hfits
    exact ⟨hdepth, by cases below <;> rfl⟩
  · obtain ⟨-, rfl, hdepth⟩ := hfits
    exact ⟨hdepth, by cases below <;> rfl⟩
  · cases huser

theorem RunnerThread.nested_of_callers {t : RunnerThread δ E R} (hcallers : Callers t.calls)
    (hdepth : t.depth = t.calls.length) : t.Nested := by
  unfold RunnerThread.Nested
  cases hcalls : t.calls with
  | nil => rw [hdepth, hcalls, List.length_nil]
  | cons f rest =>
    rw [hcalls] at hcallers hdepth
    rw [hdepth]
    exact hcallers.2

theorem RunnerThread.Nested.callers {t : RunnerThread δ E R} (h : t.Nested)
    (huser : t.inUserCode = true) : Callers t.calls ∧ t.depth = t.calls.length := by
  unfold RunnerThread.Nested at h
  unfold RunnerThread.inUserCode at huser
  cases hcalls : t.calls with
  | nil =>
    rw [hcalls] at h
    exact ⟨trivial, h⟩
  | cons f rest =>
    rw [hcalls] at h huser
    have hf : f.inUserCode = true := huser
    have hdepth := (Frame.exists_inside hf h.1).1
    exact ⟨⟨hf, hdepth ▸ h.1, h.2⟩, hdepth⟩

/-- The outermost of the callers has the permit. -/
theorem Callers.holds {calls : List (Frame δ E R)} (h : Callers calls) :
    calls.any Frame.holds = !calls.isEmpty := by
  induction calls with
  | nil => rfl
  | cons f rest ih =>
    rw [List.any_cons, ih h.2.2, (Frame.exists_inside h.1 h.2.1).2]
    cases rest <;> simp [admissionAt]

/-- A thread has a permit when its depth says so, or while it switches. -/
theorem RunnerThread.Nested.holds_eq {t : RunnerThread δ E R} (h : t.Nested) :
    t.holds = (decide (1 ≤ t.depth) || t.isSwitching) ∧
      ¬(1 ≤ t.depth ∧ t.isSwitching = true) := by
  unfold RunnerThread.Nested at h
  unfold RunnerThread.holds RunnerThread.isSwitching
  cases hcalls : t.calls with
  | nil =>
    rw [hcalls] at h
    simp [show t.depth = 0 from h]
  | cons f rest =>
    rw [hcalls] at h
    obtain ⟨hfits, hrest⟩ := h
    rw [List.any_cons, hrest.holds]
    have hpoint : ∀ {β : Type} (p : AdmitPoint β E R), p.Fits rest.length t.depth →
        (p.holds || !rest.isEmpty) = (decide (1 ≤ t.depth) || p.isSwitching) ∧
          ¬(1 ≤ t.depth ∧ p.isSwitching = true) := by
      intro β p hp
      cases p with
      | admits =>
        rw [show t.depth = rest.length from hp]
        cases rest <;> simp [AdmitPoint.holds, AdmitPoint.isSwitching]
      | acquires | acquired | releases =>
        obtain ⟨hempty, hdepth⟩ := hp
        simp [AdmitPoint.holds, AdmitPoint.isSwitching, hdepth, List.length_eq_zero_iff.mp hempty]
      | inside | leaves =>
        obtain ⟨rfl, hdepth⟩ := hp
        rw [hdepth]
        cases rest <;> simp [AdmitPoint.holds, AdmitPoint.isSwitching, admissionAt]
    cases f with
    | guard name point => exact hpoint point hfits
    | run name attempt session point => exact hpoint point hfits.2
    | handles | sleeps =>
      obtain ⟨hempty, hdepth⟩ := hfits
      simp [Frame.holds, Frame.isSwitching, hdepth, List.length_eq_zero_iff.mp hempty]

/-- A thread that waits or sleeps has no permit, and one before `slots.release()` has one. -/
theorem RunnerThread.Nested.holds_of_head {t : RunnerThread δ E R} (h : t.Nested) :
    (t.isWaiting = true ∨ t.isSleeping = true → t.holds = false) ∧
      (t.isReleasing = true → t.holds = true) := by
  unfold RunnerThread.Nested at h
  unfold RunnerThread.isWaiting RunnerThread.isSleeping RunnerThread.isReleasing RunnerThread.holds
  cases hcalls : t.calls with
  | nil => simp
  | cons f rest =>
    rw [hcalls] at h
    simp only [List.head?_cons, Option.any_some, List.any_cons]
    constructor
    · rintro (hwait | hsleep)
      · unfold Frame.isWaiting at hwait
        split at hwait
        · obtain ⟨hempty, -⟩ := h.1
          rw [List.length_eq_zero_iff.mp hempty]
          rfl
        · obtain ⟨hempty, -⟩ := h.1
          rw [List.length_eq_zero_iff.mp hempty]
          rfl
        · cases hwait
      · unfold Frame.isSleeping at hsleep
        split at hsleep
        · obtain ⟨hempty, -⟩ := h.1
          rw [List.length_eq_zero_iff.mp hempty]
          rfl
        · cases hsleep
    · intro hrelease
      unfold Frame.isReleasing at hrelease
      split at hrelease
      · rfl
      · rfl
      · cases hrelease

section Thread
variable {retryDelays : List δ} {capacity slots slots' : ℕ} {t t' : RunnerThread δ E R}
  {m : Move E R}

/-- What a thread can do: call `guard` or `run`, have a `run` refused, or go on with its
innermost call, which may end. -/
theorem RunnerThread.step_cases {runner : Runner δ}
    (h : t.step runner slots m = some (slots', t')) :
    (t.inUserCode = true ∧ slots' = slots ∧
      ((∃ name, m = .guard name ∧ t' = { t with calls := .guard name .admits :: t.calls }) ∨
        ∃ name, m = .run name ∧
          (t.depth ≠ 0 ∧ t' = { t with ended := some (.raised name .nested) } ∨
            t.depth = 0 ∧ t' = { t with calls := .run name 0 false .admits :: t.calls }))) ∨
      ∃ f rest depth, t.calls = f :: rest ∧ m.isCall = false ∧
        ((∃ g, f.step runner slots t.depth m = some (slots', depth, .inl g) ∧
            t' = { t with depth, calls := g :: rest }) ∨
          ∃ ended, f.step runner slots t.depth m = some (slots', depth, .inr ended) ∧
            t' = { depth, calls := rest, ended := some ended }) := by
  unfold RunnerThread.step at h
  split at h
  · rename_i name
    split_ifs at h with huser
    cases h
    exact Or.inl ⟨huser, rfl, Or.inl ⟨name, rfl, rfl⟩⟩
  · rename_i name
    split_ifs at h with huser hdepth
    · cases h
      exact Or.inl ⟨huser, rfl, Or.inr ⟨name, rfl, Or.inl ⟨hdepth, rfl⟩⟩⟩
    · cases h
      exact Or.inl ⟨huser, rfl, Or.inr ⟨name, rfl, Or.inr ⟨not_not.mp hdepth, rfl⟩⟩⟩
  · rename_i hguard hrun
    have hcall : m.isCall = false := by
      cases m with
      | guard name => exact absurd rfl (hguard name)
      | run name => exact absurd rfl (hrun name)
      | _ => rfl
    split at h
    · cases h
    · rename_i f rest hcalls
      obtain ⟨⟨slots₁, depth, r⟩, hr, hnext⟩ := Option.map_eq_some_iff.mp h
      cases r with
      | inl g =>
        cases hnext
        exact Or.inr ⟨f, rest, depth, hcalls, hcall, Or.inl ⟨g, hr, rfl⟩⟩
      | inr ended =>
        cases hnext
        exact Or.inr ⟨f, rest, depth, hcalls, hcall, Or.inr ⟨ended, hr, rfl⟩⟩

theorem RunnerThread.shelters_head {f : Frame δ E R} {rest : List (Frame δ E R)}
    (hcalls : t.calls = f :: rest) (hsheltered : t.shelters m = true) :
    m.isRaise = true → f.isExposed = false := by
  intro hraise
  simpa [RunnerThread.shelters, hcalls, hraise] using hsheltered

/-- Other calls of the thread neither have nor get a permit while the outermost trades. -/
theorem Move.trades_any {held held' : Bool} {rest : List (Frame δ E R)}
    (h : m.Trades slots slots' held held')
    (hrest : m.isAcquire = true ∨ m = .release → rest.length = 0) :
    m.Trades slots slots' (held || rest.any Frame.holds) (held' || rest.any Frame.holds) := by
  cases m with
  | acquire =>
    rw [List.length_eq_zero_iff.mp (hrest (Or.inl rfl))]
    simpa using h
  | release =>
    rw [List.length_eq_zero_iff.mp (hrest (Or.inr rfl))]
    simpa using h
  | _ => exact ⟨h.1, by rw [h.2]⟩

/-- Every step keeps the depth in step with the calls and trades the permit that the
semaphore's value says. -/
theorem RunnerThread.step_nested (ht : t.Nested) (hsheltered : t.shelters m = true)
    (h : t.step ⟨retryDelays, some capacity⟩ slots m = some (slots', t')) :
    t'.Nested ∧ m.Trades slots slots' t.holds t'.holds := by
  rcases RunnerThread.step_cases h with ⟨huser, rfl, hcall⟩ | ⟨f, rest, depth, hcalls, -, hstep⟩
  · obtain ⟨hcallers, hdepth⟩ := ht.callers huser
    rcases hcall with ⟨name, rfl, rfl⟩ | ⟨name, rfl, ⟨-, rfl⟩ | ⟨hzero, rfl⟩⟩
    · exact ⟨⟨hdepth, hcallers⟩, rfl, rfl⟩
    · exact ⟨RunnerThread.nested_of_callers hcallers hdepth, rfl, rfl⟩
    · exact ⟨⟨⟨hdepth.symm.trans hzero, hdepth⟩, hcallers⟩, rfl, rfl⟩
  · have hhead := RunnerThread.shelters_head hcalls hsheltered
    have hholds : t.holds = (f.holds || rest.any Frame.holds) := by
      rw [RunnerThread.holds, hcalls, List.any_cons]
    unfold RunnerThread.Nested at ht
    rw [hcalls] at ht
    rcases hstep with ⟨g, hstep, rfl⟩ | ⟨ended, hstep, rfl⟩
    · obtain ⟨hfits, htrades, houtermost, -⟩ := Frame.step_inl ht.1 hhead hstep
      refine ⟨⟨hfits, ht.2⟩, ?_⟩
      rw [hholds]
      exact Move.trades_any htrades houtermost
    · obtain ⟨hdepth, htrades, hacquire, hrelease, -⟩ := Frame.step_inr ht.1 hhead hstep
      refine ⟨RunnerThread.nested_of_callers ht.2 hdepth, ?_⟩
      have hany : m.Trades slots slots' (f.holds || rest.any Frame.holds)
          (false || rest.any Frame.holds) := by
        apply Move.trades_any htrades
        rintro (hm | hm)
        · simp [hacquire] at hm
        · exact hrelease hm
      rw [hholds]
      rwa [Bool.false_or] at hany

/-- The calls around the innermost one stay as they are. -/
theorem RunnerThread.step_suffix {runner : Runner δ} {base : List (Frame δ E R)}
    (hbase : base <:+ t.calls)
    (hinside : m.isCall = true ∨ base.length < t.calls.length)
    (h : t.step runner slots m = some (slots', t')) : base <:+ t'.calls := by
  rcases RunnerThread.step_cases h with ⟨-, -, hcall⟩ | ⟨f, rest, depth, hcalls, hmove, hstep⟩
  · rcases hcall with ⟨name, -, rfl⟩ | ⟨name, -, ⟨-, rfl⟩ | ⟨-, rfl⟩⟩
    · exact hbase.trans (List.suffix_cons _ _)
    · exact hbase
    · exact hbase.trans (List.suffix_cons _ _)
  · have hrest : base <:+ rest := by
      rw [hcalls] at hbase hinside
      rcases List.suffix_cons_iff.mp hbase with rfl | hrest
      · simp [hmove] at hinside
      · exact hrest
    rcases hstep with ⟨g, -, rfl⟩ | ⟨ended, -, rfl⟩
    · exact hrest.trans (List.suffix_cons _ _)
    · exact hrest

/-- Only the outermost call acquires. -/
theorem RunnerThread.length_of_acquire (ht : t.Nested) (hsheltered : t.shelters m = true)
    (hacquire : m.isAcquire = true)
    (h : t.step ⟨retryDelays, some capacity⟩ slots m = some (slots', t')) :
    t.calls.length = 1 := by
  rcases RunnerThread.step_cases h with ⟨-, -, hcall⟩ | ⟨f, rest, depth, hcalls, -, hstep⟩
  · rcases hcall with ⟨name, rfl, -⟩ | ⟨name, rfl, -⟩ <;> cases hacquire
  · have hhead := RunnerThread.shelters_head hcalls hsheltered
    unfold RunnerThread.Nested at ht
    rw [hcalls] at ht
    rcases hstep with ⟨g, hstep, -⟩ | ⟨ended, hstep, -⟩
    · obtain ⟨-, -, houtermost, -⟩ := Frame.step_inl ht.1 hhead hstep
      rw [hcalls, List.length_cons, houtermost (Or.inl hacquire)]
    · obtain ⟨-, -, hnot, -⟩ := Frame.step_inr ht.1 hhead hstep
      simp [hacquire] at hnot

/-- Inside a call a thread acquires out of the budget of the outermost call. -/
theorem RunnerThread.step_budget (ht : t.Nested) (hsheltered : t.shelters m = true)
    (hinside : t.calls ≠ [])
    (h : t.step ⟨retryDelays, some capacity⟩ slots m = some (slots', t')) :
    (if m.isAcquire then 1 else 0) + t'.budget retryDelays.length ≤
      t.budget retryDelays.length := by
  rcases RunnerThread.step_cases h with ⟨-, -, hcall⟩ | ⟨f, rest, depth, hcalls, -, hstep⟩
  · obtain ⟨f, rest, hcalls⟩ := List.exists_cons_of_ne_nil hinside
    rcases hcall with ⟨name, rfl, rfl⟩ | ⟨name, rfl, ⟨-, rfl⟩ | ⟨-, rfl⟩⟩ <;>
      simp [RunnerThread.budget, Move.isAcquire, hcalls]
  · cases hrest : rest with
    | nil =>
      have hhead := RunnerThread.shelters_head hcalls hsheltered
      unfold RunnerThread.Nested at ht
      rw [hcalls, hrest] at ht
      rcases hstep with ⟨g, hstep, rfl⟩ | ⟨ended, hstep, rfl⟩
      · obtain ⟨-, -, -, hbudget⟩ := Frame.step_inl ht.1 hhead hstep
        simpa [RunnerThread.budget, hcalls, hrest] using hbudget
      · obtain ⟨-, -, hnot, -⟩ := Frame.step_inr ht.1 hhead hstep
        simp [RunnerThread.budget, hrest, hnot]
    | cons f' rest' =>
      have hnot : m.isAcquire = false := by
        by_contra hacquire
        have hlength := RunnerThread.length_of_acquire ht hsheltered (by simpa using hacquire) h
        rw [hcalls, hrest] at hlength
        simp at hlength
      rcases hstep with ⟨g, -, rfl⟩ | ⟨ended, -, rfl⟩ <;>
        simp [RunnerThread.budget, hcalls, hrest, hnot]

end Thread

end ConnectionTopology.TransactionSlots
