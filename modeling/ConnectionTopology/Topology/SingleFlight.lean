import ConnectionTopology.Services.ObjectCache

/-!
# One computation at a time

What the in-flight table and the private copies of the topology cache guarantee in every
interleaving. The calls that own a computation, the table and the events follow one
invariant, the stored objects and the returned values another.
-/
namespace ConnectionTopology.ObjectCache

variable {κ V E T : Type}

/-! ## Who owns a computation -/

/-- The computation that the table has for the call. -/
def Point.holds : Point V E T → Option ℕ
  | .owner f | .computing f | .storing f _ | .popping f _ => some f
  | _ => none

/-- The computation whose event the call has yet to set. -/
def Point.owns : Point V E T → Option ℕ
  | .owner f | .computing f | .storing f _ | .popping f _ | .signalling f _ => some f
  | _ => none

/-- The computation whose `try` block the call has not left. -/
def Point.runs : Point V E T → Option ℕ
  | .owner f | .computing f | .storing f _ => some f
  | _ => none

theorem Point.owns_of_holds {p : Point V E T} {f : ℕ} (h : p.holds = some f) :
    p.owns = some f := by
  cases p <;> first | exact h | cases h

theorem Point.holds_of_runs {p : Point V E T} {f : ℕ} (h : p.runs = some f) :
    p.holds = some f := by
  cases p <;> first | exact h | cases h

def State.Holds (s : State κ V E T) (n : ℕ) (key : κ) (f : ℕ) : Prop :=
  Machine.Is s.calls n fun c => c.key = key ∧ c.point.holds = some f

def State.Owns (s : State κ V E T) (n f : ℕ) : Prop :=
  Machine.Is s.calls n fun c => c.point.owns = some f

def State.Runs (s : State κ V E T) (n f : ℕ) : Prop :=
  Machine.Is s.calls n fun c => c.point.runs = some f

theorem State.Runs.owns {s : State κ V E T} {n f : ℕ} (h : s.Runs n f) : s.Owns n f := by
  obtain ⟨c, hc, hpoint⟩ := h
  exact ⟨c, hc, Point.owns_of_holds (Point.holds_of_runs hpoint)⟩

theorem State.Holds.owns {s : State κ V E T} {n : ℕ} {key : κ} {f : ℕ} (h : s.Holds n key f) :
    s.Owns n f := by
  obtain ⟨c, hc, -, hpoint⟩ := h
  exact ⟨c, hc, Point.owns_of_holds hpoint⟩

/-- What became of a computation that a call has waited for. -/
def Call.Waited (log : List (Event κ V E)) (c : Call κ V E T) (f : ℕ) : Prop :=
  c.point = .waiting f ∨ (∃ error, .ended f error ∈ log) ∧
    ∀ e, .ended f (some e) ∈ log → c.point = .done (.reraised f e)

/-- The table, the owners, the events and the errors fit together. -/
structure FlightInv (s : State κ V E T) : Prop where
  holder : ∀ key f, s.inflight key = some f → ∃ n, s.Holds n key f
  held : ∀ n key f, s.Holds n key f → s.inflight key = some f
  owner : ∀ m n f, s.Owns m f → s.Owns n f → m = n
  unset : ∀ n f, s.Owns n f → ∃ flight, s.flights[f]? = some flight ∧ flight.event = false
  owned : ∀ (f : ℕ) flight, s.flights[f]? = some flight →
    flight.event = true ∨ ∃ n, s.Owns n f
  clean : ∀ n f, s.Runs n f → ∃ flight, s.flights[f]? = some flight ∧ flight.error = none
  ended : ∀ f error, .ended f error ∈ s.log →
    (∀ n, ¬s.Runs n f) ∧ ∃ flight, s.flights[f]? = some flight ∧ flight.error = error
  left : ∀ f < s.flights.length, (∃ error, .ended f error ∈ s.log) ∨ ∃ n, s.Runs n f
  waited : ∀ c ∈ s.calls, ∀ f ∈ c.waited, c.Waited s.log f
  waits : ∀ c ∈ s.calls, ∀ f, c.point = .waiting f → f ∈ c.waited ∧ f < s.flights.length

theorem FlightInv.empty (now : T) : FlightInv (ObjectCache.empty now : State κ V E T) := by
  constructor <;>
    simp [ObjectCache.empty, State.Holds, State.Owns, State.Runs, Machine.Is]

/-! ## One step of the table -/

/-- Nothing that the invariant speaks of changes, except that a call may stop waiting. -/
theorem FlightInv.transport {s t : State κ V E T} (h : FlightInv s)
    (hinflight : t.inflight = s.inflight) (hflights : t.flights = s.flights)
    (hlog : ∀ f error, .ended f error ∈ t.log ↔ .ended f error ∈ s.log)
    (hholds : ∀ n key f, t.Holds n key f ↔ s.Holds n key f)
    (howns : ∀ n f, t.Owns n f ↔ s.Owns n f) (hruns : ∀ n f, t.Runs n f ↔ s.Runs n f)
    (hwaited : ∀ c ∈ t.calls, ∀ f ∈ c.waited, c.Waited s.log f)
    (hwaits : ∀ c ∈ t.calls, ∀ f, c.point = .waiting f → f ∈ c.waited ∧ f < s.flights.length) :
    FlightInv t := by
  constructor
  · simpa only [hinflight, hholds] using h.holder
  · simpa only [hinflight, hholds] using h.held
  · simpa only [howns] using h.owner
  · simpa only [howns, hflights] using h.unset
  · simpa only [howns, hflights] using h.owned
  · simpa only [hruns, hflights] using h.clean
  · simpa only [hruns, hflights, hlog] using h.ended
  · simpa only [hruns, hflights, hlog] using h.left
  · simpa only [Call.Waited, hlog] using hwaited
  · simpa only [hflights] using hwaits

/-- A call on its way has waited only for computations that ended without an error. -/
theorem FlightInv.waited_of_active {s : State κ V E T} (h : FlightInv s) {c : Call κ V E T}
    (hc : c ∈ s.calls) (hwaiting : ∀ f, c.point ≠ .waiting f)
    (hdone : ∀ result, c.point ≠ .done result) :
    ∀ f ∈ c.waited, (∃ error, .ended f error ∈ s.log) ∧ ∀ e, .ended f (some e) ∉ s.log := by
  intro f hf
  obtain hpoint | ⟨hended, herror⟩ := h.waited c hc f hf
  · exact absurd hpoint (hwaiting f)
  · exact ⟨hended, fun e he => absurd (herror e he) (hdone _)⟩

/-- A call on its way moves on, and so do the computations that it has waited for. -/
theorem FlightInv.waited_move {s : State κ V E T} (h : FlightInv s) {n : ℕ} {c : Call κ V E T}
    (hc : s.calls[n]? = some c) (hwaiting : ∀ f, c.point ≠ .waiting f)
    (hdone : ∀ result, c.point ≠ .done result) (point : Point V E T) :
    ∀ d ∈ s.calls.set n { c with point := point }, ∀ f ∈ d.waited, d.Waited s.log f := by
  intro d hd f hf
  obtain hd | rfl := List.mem_or_eq_of_mem_set hd
  · exact h.waited d hd f hf
  · obtain ⟨hended, hclean⟩ :=
      h.waited_of_active (List.mem_of_getElem? hc) hwaiting hdone f hf
    exact Or.inr ⟨hended, fun e he => absurd he (hclean e)⟩

theorem FlightInv.waits_move {s : State κ V E T} (h : FlightInv s) (n : ℕ) (c : Call κ V E T)
    {point : Point V E T} (hpoint : ∀ f, point ≠ .waiting f) :
    ∀ d ∈ s.calls.set n { c with point := point }, ∀ f, d.point = .waiting f →
      f ∈ d.waited ∧ f < s.flights.length := by
  intro d hd f hf
  obtain hd | rfl := List.mem_or_eq_of_mem_set hd
  · exact h.waits d hd f hf
  · exact absurd hf (hpoint f)

/-- A change of the clock, the heap or the entries. -/
theorem FlightInv.keep {s t : State κ V E T} (h : FlightInv s) (hcalls : t.calls = s.calls)
    (hinflight : t.inflight = s.inflight) (hflights : t.flights = s.flights)
    (hlog : ∀ f error, .ended f error ∈ t.log ↔ .ended f error ∈ s.log) : FlightInv t := by
  apply h.transport hinflight hflights hlog
  · simp [State.Holds, hcalls]
  · simp [State.Owns, hcalls]
  · simp [State.Runs, hcalls]
  · rw [hcalls]
    exact h.waited
  · rw [hcalls]
    exact h.waits

/-- A call moves on without a change of what it holds, owns and runs. -/
theorem FlightInv.move {s t : State κ V E T} (h : FlightInv s) {n : ℕ} {c : Call κ V E T}
    (hc : s.calls[n]? = some c) {point : Point V E T} (hcalls : t.calls = s.calls)
    (hinflight : t.inflight = s.inflight) (hflights : t.flights = s.flights)
    (hlog : ∀ f error, .ended f error ∈ t.log ↔ .ended f error ∈ s.log)
    (hholds : point.holds = c.point.holds) (howns : point.owns = c.point.owns)
    (hruns : point.runs = c.point.runs) (hwaits : ∀ f, point ≠ .waiting f)
    (hwaited : ∀ f ∈ c.waited, Call.Waited s.log { c with point := point } f) :
    FlightInv (t.moveTo n c point) := by
  apply FlightInv.transport (t := t.moveTo n c point) h hinflight hflights hlog
  · intro m key f
    simp only [State.Holds, State.moveTo, hcalls]
    apply Machine.is_set_iff hc
    simp only [hholds]
  · intro m f
    simp only [State.Owns, State.moveTo, hcalls]
    apply Machine.is_set_iff hc
    simp only [howns]
  · intro m f
    simp only [State.Runs, State.moveTo, hcalls]
    apply Machine.is_set_iff hc
    simp only [hruns]
  · intro d hd f hf
    simp only [State.moveTo, hcalls] at hd
    obtain hd | rfl := List.mem_or_eq_of_mem_set hd
    · exact h.waited d hd f hf
    · exact hwaited f hf
  · simp only [State.moveTo, hcalls]
    exact h.waits_move n c hwaits

/-- A call that is neither blocked nor done moves on, as before. -/
theorem FlightInv.moveActive {s t : State κ V E T} (h : FlightInv s) {n : ℕ} {c : Call κ V E T}
    (hc : s.calls[n]? = some c) {point : Point V E T} (hcalls : t.calls = s.calls)
    (hinflight : t.inflight = s.inflight) (hflights : t.flights = s.flights)
    (hlog : ∀ f error, .ended f error ∈ t.log ↔ .ended f error ∈ s.log)
    (hholds : point.holds = c.point.holds) (howns : point.owns = c.point.owns)
    (hruns : point.runs = c.point.runs) (hwaits : ∀ f, point ≠ .waiting f)
    (hwaiting : ∀ f, c.point ≠ .waiting f) (hdone : ∀ result, c.point ≠ .done result) :
    FlightInv (t.moveTo n c point) := by
  apply h.move hc hcalls hinflight hflights hlog hholds howns hruns hwaits
  intro f hf
  obtain ⟨hended, hclean⟩ :=
    h.waited_of_active (List.mem_of_getElem? hc) hwaiting hdone f hf
  exact Or.inr ⟨hended, fun e he => absurd he (hclean e)⟩

theorem FlightInv.start {s t : State κ V E T} (h : FlightInv s) {c : Call κ V E T}
    (hcalls : t.calls = s.calls ++ [c]) (hinflight : t.inflight = s.inflight)
    (hflights : t.flights = s.flights)
    (hlog : ∀ f error, .ended f error ∈ t.log ↔ .ended f error ∈ s.log)
    (howns : c.point.owns = none) (hwaits : ∀ f, c.point ≠ .waiting f) (hwaited : c.waited = []) :
    FlightInv t := by
  have hholds : ∀ f, c.point.holds ≠ some f := by
    intro f hf
    rw [Point.owns_of_holds hf] at howns
    cases howns
  have hruns : ∀ f, c.point.runs ≠ some f := fun f hf => hholds f (Point.holds_of_runs hf)
  apply h.transport hinflight hflights hlog
  · intro m key f
    simp only [State.Holds, hcalls]
    apply Machine.is_append
    exact fun hc => hholds f hc.2
  · intro m f
    simp only [State.Owns, hcalls]
    apply Machine.is_append
    simp [howns]
  · intro m f
    simp only [State.Runs, hcalls]
    apply Machine.is_append
    exact hruns f
  · intro d hd f hf
    rw [hcalls] at hd
    obtain hd | hd := List.mem_append.mp hd
    · exact h.waited d hd f hf
    · rw [List.mem_singleton.mp hd, hwaited] at hf
      cases hf
  · intro d hd f hpoint
    rw [hcalls] at hd
    obtain hd | hd := List.mem_append.mp hd
    · exact h.waits d hd f hpoint
    · rw [List.mem_singleton.mp hd] at hpoint
      exact absurd hpoint (hwaits f)

/-- The call joins the computation that the table has for its key. -/
theorem FlightInv.join {s : State κ V E T} (h : FlightInv s) {n : ℕ} {c : Call κ V E T}
    (hc : s.calls[n]? = some c) (hpoint : c.point = .inspect) {f : ℕ}
    (hf : s.inflight c.key = some f) :
    FlightInv (s.moveTo n { c with waited := f :: c.waited } (.waiting f)) := by
  have hactive := h.waited_of_active (List.mem_of_getElem? hc) (by simp [hpoint]) (by simp [hpoint])
  have hlt : f < s.flights.length := by
    obtain ⟨m, hm⟩ := h.holder c.key f hf
    obtain ⟨flight, hflight, -⟩ := h.unset m f hm.owns
    exact (List.getElem?_eq_some_iff.mp hflight).1
  apply h.transport
  · rfl
  · rfl
  · exact fun _ _ => Iff.rfl
  · intro m key g
    apply Machine.is_set_iff hc
    simp [hpoint, Point.holds]
  · intro m g
    apply Machine.is_set_iff hc
    simp [hpoint, Point.owns]
  · intro m g
    apply Machine.is_set_iff hc
    simp [hpoint, Point.runs]
  · intro d hd g hg
    obtain hd | rfl := List.mem_or_eq_of_mem_set hd
    · exact h.waited d hd g hg
    · obtain rfl | hg := List.mem_cons.mp hg
      · exact Or.inl rfl
      · obtain ⟨hended, hclean⟩ := hactive g hg
        exact Or.inr ⟨hended, fun e he => absurd he (hclean e)⟩
  · intro d hd g hg
    obtain hd | rfl := List.mem_or_eq_of_mem_set hd
    · exact h.waits d hd g hg
    · cases hg
      exact ⟨List.mem_cons_self, hlt⟩

/-- The call starts a computation of its key. -/
theorem FlightInv.begin [DecidableEq κ] {s : State κ V E T} (h : FlightInv s) {n : ℕ}
    {c : Call κ V E T} (hc : s.calls[n]? = some c) (hpoint : c.point = .inspect)
    (hnone : s.inflight c.key = none) :
    FlightInv ({ s with
      inflight := Function.update s.inflight c.key (some s.flights.length)
      flights := s.flights ++ [Inflight.mk false none] }.moveTo n c (.owner s.flights.length)) := by
  set t : State κ V E T := { s with
    inflight := Function.update s.inflight c.key (some s.flights.length)
    flights := s.flights ++ [Inflight.mk false none] }.moveTo n c (.owner s.flights.length) with ht
  have hnew : ∀ m, ¬s.Owns m s.flights.length := by
    intro m hm
    obtain ⟨flight, hflight, -⟩ := h.unset m _ hm
    simp at hflight
  have hidle : ∀ f, ¬s.Owns n f := by
    intro f hf
    obtain ⟨d, hd, hf⟩ := hf
    rw [hc] at hd
    cases hd
    simp [hpoint, Point.owns] at hf
  have hholds : ∀ m key f, t.Holds m key f ↔
      (m = n ∧ c.key = key ∧ s.flights.length = f) ∨ (m ≠ n ∧ s.Holds m key f) := by
    intro m key f
    simp only [ht, State.Holds, State.moveTo]
    rw [Machine.is_set hc]
    simp [Point.holds]
  have howns : ∀ m f, t.Owns m f ↔ (m = n ∧ s.flights.length = f) ∨ (m ≠ n ∧ s.Owns m f) := by
    intro m f
    simp only [ht, State.Owns, State.moveTo]
    rw [Machine.is_set hc]
    simp [Point.owns]
  have hruns : ∀ m f, t.Runs m f ↔ (m = n ∧ s.flights.length = f) ∨ (m ≠ n ∧ s.Runs m f) := by
    intro m f
    simp only [ht, State.Runs, State.moveTo]
    rw [Machine.is_set hc]
    simp [Point.runs]
  have hflights : ∀ (f : ℕ) flight, s.flights[f]? = some flight → t.flights[f]? = some flight := by
    intro f flight hflight
    exact (List.getElem?_append_left (List.getElem?_eq_some_iff.mp hflight).1).trans hflight
  constructor
  · intro key f hf
    change Function.update s.inflight c.key (some s.flights.length) key = some f at hf
    by_cases hkey : key = c.key
    · subst hkey
      rw [Function.update_self] at hf
      cases hf
      exact ⟨n, (hholds _ _ _).mpr (Or.inl ⟨rfl, rfl, rfl⟩)⟩
    · rw [Function.update_of_ne hkey] at hf
      obtain ⟨m, hm⟩ := h.holder key f hf
      have hmn : m ≠ n := by
        rintro rfl
        exact hidle f hm.owns
      exact ⟨m, (hholds _ _ _).mpr (Or.inr ⟨hmn, hm⟩)⟩
  · intro m key f hm
    change Function.update s.inflight c.key (some s.flights.length) key = some f
    obtain ⟨-, rfl, rfl⟩ | ⟨-, hm⟩ := (hholds _ _ _).mp hm
    · exact Function.update_self ..
    · have hf := h.held m key f hm
      have hkey : key ≠ c.key := by
        rintro rfl
        rw [hnone] at hf
        cases hf
      rwa [Function.update_of_ne hkey]
  · intro l m f hl hm
    obtain ⟨rfl, rfl⟩ | ⟨-, hl⟩ := (howns _ _).mp hl
    · obtain ⟨rfl, -⟩ | ⟨-, hm⟩ := (howns _ _).mp hm
      · rfl
      · exact absurd hm (hnew m)
    · obtain ⟨-, rfl⟩ | ⟨-, hm⟩ := (howns _ _).mp hm
      · exact absurd hl (hnew l)
      · exact h.owner l m f hl hm
  · intro m f hm
    obtain ⟨-, rfl⟩ | ⟨-, hm⟩ := (howns _ _).mp hm
    · exact ⟨_, List.getElem?_concat_length, rfl⟩
    · obtain ⟨flight, hflight, hevent⟩ := h.unset m f hm
      exact ⟨flight, hflights f flight hflight, hevent⟩
  · intro f flight hflight
    obtain hflight | ⟨rfl, -⟩ := Machine.getElem?_append_cases hflight
    · obtain hevent | ⟨m, hm⟩ := h.owned f flight hflight
      · exact Or.inl hevent
      · have hmn : m ≠ n := by
          rintro rfl
          exact hidle f hm
        exact Or.inr ⟨m, (howns _ _).mpr (Or.inr ⟨hmn, hm⟩)⟩
    · exact Or.inr ⟨n, (howns _ _).mpr (Or.inl ⟨rfl, rfl⟩)⟩
  · intro m f hm
    obtain ⟨-, rfl⟩ | ⟨-, hm⟩ := (hruns _ _).mp hm
    · exact ⟨_, List.getElem?_concat_length, rfl⟩
    · obtain ⟨flight, hflight, herror⟩ := h.clean m f hm
      exact ⟨flight, hflights f flight hflight, herror⟩
  · intro f error hended
    obtain ⟨hidle', flight, hflight, herror⟩ := h.ended f error hended
    refine ⟨?_, flight, hflights f flight hflight, herror⟩
    intro m hm
    obtain ⟨-, rfl⟩ | ⟨-, hm⟩ := (hruns _ _).mp hm
    · simp at hflight
    · exact hidle' m hm
  · intro f hf
    have hlt : f < s.flights.length + 1 := by simpa [ht, State.moveTo] using hf
    obtain hlt | rfl := Nat.lt_succ_iff_lt_or_eq.mp hlt
    · obtain hended | ⟨m, hm⟩ := h.left f hlt
      · exact Or.inl hended
      · have hmn : m ≠ n := by
          rintro rfl
          exact hidle f hm.owns
        exact Or.inr ⟨m, (hruns _ _).mpr (Or.inr ⟨hmn, hm⟩)⟩
    · exact Or.inr ⟨n, (hruns _ _).mpr (Or.inl ⟨rfl, rfl⟩)⟩
  · exact h.waited_move hc (by simp [hpoint]) (by simp [hpoint]) _
  · intro d hd g hg
    obtain ⟨hmem, hlt⟩ := h.waits_move n c (by simp) d hd g hg
    exact ⟨hmem, by simp [ht, State.moveTo]; omega⟩

/-- The owner leaves the `try` block, with or without an error for the waiters. -/
theorem FlightInv.leave {s : State κ V E T} (h : FlightInv s) {n : ℕ} {c : Call κ V E T}
    (hc : s.calls[n]? = some c) {f : ℕ} (hpoint : c.point.runs = some f) (error : Option E)
    (result : Result V E T) : FlightInv (s.leave n c f error result) := by
  set t := s.leave n c f error result with ht
  have hmem : c ∈ s.calls := List.mem_of_getElem? hc
  have hn : s.Runs n f := ⟨c, hc, hpoint⟩
  obtain ⟨flight, hflight, hclean⟩ := h.clean n f hn
  have hactive := h.waited_of_active hmem
    (by intro g hg; simp [hg, Point.runs] at hpoint) (by intro r hr; simp [hr, Point.runs] at hpoint)
  have hholds : ∀ m key g, t.Holds m key g ↔ s.Holds m key g := by
    intro m key g
    apply Machine.is_set_iff hc
    rw [Point.holds_of_runs hpoint, Point.holds]
  have howns : ∀ m g, t.Owns m g ↔ s.Owns m g := by
    intro m g
    apply Machine.is_set_iff hc
    rw [Point.owns_of_holds (Point.holds_of_runs hpoint), Point.owns]
  have hruns : ∀ m g, t.Runs m g ↔ m ≠ n ∧ s.Runs m g := by
    intro m g
    simp only [ht, State.Runs, State.leave, State.moveTo]
    rw [Machine.is_set hc]
    simp [Point.runs]
  have hother : ∀ m g, t.Runs m g → g ≠ f := by
    intro m g hm
    obtain ⟨hmn, hrun⟩ := (hruns m g).mp hm
    rintro rfl
    exact hmn (h.owner m n g hrun.owns hn.owns)
  have hself : t.flights[f]? = some { flight with error := error } := by
    cases error with
    | none =>
      rw [← hclean]
      exact hflight
    | some e => simp [ht, State.leave, State.moveTo, hflight]
  have hkeep : ∀ g, g ≠ f → t.flights[g]? = s.flights[g]? := by
    intro g hg
    cases error with
    | none => rfl
    | some e => simp [ht, State.leave, State.moveTo, hg.symm]
  have hlength : t.flights.length = s.flights.length := by
    cases error with
    | none => rfl
    | some e => simp [ht, State.leave, State.moveTo]
  have hlog : ∀ g e, .ended g e ∈ t.log ↔ (g = f ∧ e = error) ∨ .ended g e ∈ s.log := by
    intro g e
    simp [ht, State.leave, State.moveTo]
  constructor
  · intro key g hg
    simp only [hholds]
    exact h.holder key g hg
  · intro m key g hm
    exact h.held m key g ((hholds m key g).mp hm)
  · intro l m g hl hm
    exact h.owner l m g ((howns l g).mp hl) ((howns m g).mp hm)
  · intro m g hm
    obtain ⟨older, hg, hevent⟩ := h.unset m g ((howns m g).mp hm)
    by_cases hgf : g = f
    · subst hgf
      rw [hflight] at hg
      cases hg
      exact ⟨_, hself, hevent⟩
    · exact ⟨older, (hkeep g hgf).trans hg, hevent⟩
  · intro g other hg
    by_cases hgf : g = f
    · subst hgf
      exact Or.inr ⟨n, (howns n g).mpr hn.owns⟩
    · rw [hkeep g hgf] at hg
      obtain hevent | ⟨m, hm⟩ := h.owned g other hg
      · exact Or.inl hevent
      · exact Or.inr ⟨m, (howns m g).mpr hm⟩
  · intro m g hm
    obtain ⟨other, hg, herror⟩ := h.clean m g ((hruns m g).mp hm).2
    exact ⟨other, (hkeep g (hother m g hm)).trans hg, herror⟩
  · intro g e he
    obtain ⟨rfl, rfl⟩ | he := (hlog g e).mp he
    · exact ⟨fun m hm => hother m g hm rfl, _, hself, rfl⟩
    · obtain ⟨hidle, other, hg, herror⟩ := h.ended g e he
      have hgf : g ≠ f := by
        rintro rfl
        exact hidle n hn
      exact ⟨fun m hm => hidle m ((hruns m g).mp hm).2, other, (hkeep g hgf).trans hg, herror⟩
  · intro g hg
    rw [hlength] at hg
    by_cases hgf : g = f
    · exact Or.inl ⟨error, (hlog g error).mpr (Or.inl ⟨hgf, rfl⟩)⟩
    · obtain ⟨e, he⟩ | ⟨m, hm⟩ := h.left g hg
      · exact Or.inl ⟨e, (hlog g e).mpr (Or.inr he)⟩
      · have hmn : m ≠ n := by
          rintro rfl
          exact hgf (by
            obtain ⟨d, hd, hdg⟩ := hm
            rw [hc] at hd
            cases hd
            exact Option.some.inj (hdg.symm.trans hpoint))
        exact Or.inr ⟨m, (hruns m g).mpr ⟨hmn, hm⟩⟩
  · intro d hd g hg
    obtain hd | rfl := List.mem_or_eq_of_mem_set hd
    · obtain hwaiting | ⟨⟨e, he⟩, herror⟩ := h.waited d hd g hg
      · exact Or.inl hwaiting
      · refine Or.inr ⟨⟨e, (hlog g e).mpr (Or.inr he)⟩, ?_⟩
        intro e' he'
        obtain ⟨rfl, -⟩ | he' := (hlog g _).mp he'
        · exact absurd hn ((h.ended g e he).1 n)
        · exact herror e' he'
    · obtain ⟨⟨e, he⟩, hnone⟩ := hactive g hg
      refine Or.inr ⟨⟨e, (hlog g e).mpr (Or.inr he)⟩, ?_⟩
      intro e' he'
      obtain ⟨rfl, -⟩ | he' := (hlog g _).mp he'
      · exact absurd hn ((h.ended g e he).1 n)
      · exact absurd he' (hnone e')
  · rw [hlength]
    exact h.waits_move n c (by simp)

/-- The owner takes its entry out of the table. -/
theorem FlightInv.pop [DecidableEq κ] {s : State κ V E T} (h : FlightInv s) {n : ℕ}
    {c : Call κ V E T} (hc : s.calls[n]? = some c) {f : ℕ} {result : Result V E T}
    (hpoint : c.point = .popping f result) :
    FlightInv ({ s with inflight := Function.update s.inflight c.key none }.moveTo n c
      (.signalling f result)) := by
  set t : State κ V E T := { s with
    inflight := Function.update s.inflight c.key none }.moveTo n c (.signalling f result) with ht
  have hn : s.Holds n c.key f := ⟨c, hc, rfl, by simp [hpoint, Point.holds]⟩
  have hholds : ∀ m key g, t.Holds m key g ↔ m ≠ n ∧ s.Holds m key g := by
    intro m key g
    simp only [ht, State.Holds, State.moveTo]
    rw [Machine.is_set hc]
    simp [Point.holds]
  have howns : ∀ m g, t.Owns m g ↔ s.Owns m g := by
    intro m g
    apply Machine.is_set_iff hc
    simp [hpoint, Point.owns]
  have hruns : ∀ m g, t.Runs m g ↔ s.Runs m g := by
    intro m g
    apply Machine.is_set_iff hc
    simp [hpoint, Point.runs]
  constructor
  · intro key g hg
    change Function.update s.inflight c.key none key = some g at hg
    by_cases hkey : key = c.key
    · subst hkey
      simp at hg
    · rw [Function.update_of_ne hkey] at hg
      obtain ⟨m, hm⟩ := h.holder key g hg
      have hmn : m ≠ n := by
        rintro rfl
        obtain ⟨d, hd, hdkey, -⟩ := hm
        rw [hc] at hd
        cases hd
        exact hkey hdkey.symm
      exact ⟨m, (hholds m key g).mpr ⟨hmn, hm⟩⟩
  · intro m key g hm
    obtain ⟨hmn, hm⟩ := (hholds m key g).mp hm
    have hg := h.held m key g hm
    have hkey : key ≠ c.key := by
      rintro rfl
      rw [h.held n _ f hn] at hg
      cases hg
      exact hmn (h.owner m n f hm.owns hn.owns)
    change Function.update s.inflight c.key none key = some g
    rwa [Function.update_of_ne hkey]
  · simp only [howns]
    exact h.owner
  · simp only [howns]
    exact h.unset
  · simp only [howns]
    exact h.owned
  · simp only [hruns]
    exact h.clean
  · simp only [hruns]
    exact h.ended
  · simp only [hruns]
    exact h.left
  · exact h.waited_move hc (by simp [hpoint]) (by simp [hpoint]) _
  · exact h.waits_move n c (by simp)

/-- The owner sets the event. -/
theorem FlightInv.signal {s : State κ V E T} (h : FlightInv s) {n : ℕ}
    {c : Call κ V E T} (hc : s.calls[n]? = some c) {f : ℕ} {result : Result V E T}
    (hpoint : c.point = .signalling f result) :
    FlightInv ({ s with
      flights := s.flights.modify f fun g => { g with event := true } }.moveTo n c
        (.done result)) := by
  set t : State κ V E T := { s with
    flights := s.flights.modify f fun g => { g with event := true } }.moveTo n c (.done result)
    with ht
  have hn : s.Owns n f := ⟨c, hc, by simp [hpoint, Point.owns]⟩
  have hholds : ∀ m key g, t.Holds m key g ↔ s.Holds m key g := by
    intro m key g
    apply Machine.is_set_iff hc
    simp [hpoint, Point.holds]
  have howns : ∀ m g, t.Owns m g ↔ m ≠ n ∧ s.Owns m g := by
    intro m g
    simp only [ht, State.Owns, State.moveTo]
    rw [Machine.is_set hc]
    simp [Point.owns]
  have hruns : ∀ m g, t.Runs m g ↔ s.Runs m g := by
    intro m g
    apply Machine.is_set_iff hc
    simp [hpoint, Point.runs]
  have hkeep : ∀ g, g ≠ f → t.flights[g]? = s.flights[g]? := by
    intro g hg
    simp [ht, State.moveTo, hg.symm]
  -- setting an event changes no error
  have herrors : ∀ (g : ℕ) flight, s.flights[g]? = some flight →
      ∃ other, t.flights[g]? = some other ∧ other.error = flight.error := by
    intro g flight hg
    by_cases hgf : g = f
    · subst hgf
      exact ⟨{ flight with event := true }, by simp [ht, State.moveTo, hg], rfl⟩
    · exact ⟨flight, (hkeep g hgf).trans hg, rfl⟩
  constructor
  · intro key g hg
    simp only [hholds]
    exact h.holder key g hg
  · intro m key g hm
    exact h.held m key g ((hholds m key g).mp hm)
  · intro l m g hl hm
    exact h.owner l m g ((howns l g).mp hl).2 ((howns m g).mp hm).2
  · intro m g hm
    obtain ⟨hmn, hown⟩ := (howns m g).mp hm
    have hgf : g ≠ f := by
      rintro rfl
      exact hmn (h.owner m n g hown hn)
    rw [hkeep g hgf]
    exact h.unset m g hown
  · intro g other hg
    by_cases hgf : g = f
    · subst hgf
      left
      obtain ⟨flight, hflight, -⟩ := h.unset n g hn
      simp only [ht, State.moveTo, List.getElem?_modify, hflight] at hg
      cases hg
      simp
    · rw [hkeep g hgf] at hg
      obtain hevent | ⟨m, hm⟩ := h.owned g other hg
      · exact Or.inl hevent
      · have hmn : m ≠ n := by
          rintro rfl
          obtain ⟨d, hd, hdg⟩ := hm
          rw [hc] at hd
          cases hd
          rw [hpoint] at hdg
          exact hgf (Option.some.inj hdg).symm
        exact Or.inr ⟨m, (howns m g).mpr ⟨hmn, hm⟩⟩
  · intro m g hm
    obtain ⟨flight, hflight, hclean⟩ := h.clean m g ((hruns m g).mp hm)
    obtain ⟨other, hother, herror⟩ := herrors g flight hflight
    exact ⟨other, hother, herror.trans hclean⟩
  · intro g e he
    obtain ⟨hidle, flight, hflight, hclean⟩ := h.ended g e he
    obtain ⟨other, hother, herror⟩ := herrors g flight hflight
    exact ⟨fun m hm => hidle m ((hruns m g).mp hm), other, hother, herror.trans hclean⟩
  · intro g hg
    simp only [hruns]
    exact h.left g (by simpa [ht, State.moveTo] using hg)
  · exact h.waited_move hc (by simp [hpoint]) (by simp [hpoint]) _
  · intro d hd g hg
    obtain ⟨hmem, hlt⟩ := h.waits_move n c (by simp) d hd g hg
    exact ⟨hmem, by simpa [ht, State.moveTo] using hlt⟩

/-- What a released waiter finds. -/
theorem FlightInv.ended_of_event {s : State κ V E T} (h : FlightInv s) {f : ℕ} {flight : Inflight E}
    (hflight : s.flights[f]? = some flight) (hevent : flight.event = true) :
    ∀ error, .ended f error ∈ s.log ↔ error = flight.error := by
  have hmem : ∀ error, .ended f error ∈ s.log → error = flight.error := by
    intro error he
    obtain ⟨-, other, hother, herror⟩ := h.ended f error he
    rw [hflight] at hother
    cases hother
    exact herror.symm
  have hsome : ∃ error, .ended f error ∈ s.log := by
    obtain hended | ⟨n, hn⟩ := h.left f (List.getElem?_eq_some_iff.mp hflight).1
    · exact hended
    · obtain ⟨other, hother, hunset⟩ := h.unset n f hn.owns
      rw [hflight] at hother
      cases hother
      simp [hevent] at hunset
  intro error
  constructor
  · exact hmem error
  · rintro rfl
    obtain ⟨error, he⟩ := hsome
    rwa [← hmem error he]

/-- A waiter goes on once the event is set. -/
theorem FlightInv.wake {s : State κ V E T} (h : FlightInv s) {n : ℕ} {c : Call κ V E T}
    (hc : s.calls[n]? = some c) {f : ℕ} (hpoint : c.point = .waiting f) {flight : Inflight E}
    (hflight : s.flights[f]? = some flight) (hevent : flight.event = true) :
    FlightInv (s.moveTo n c (match flight.error with
      | some e => .done (.reraised f e)
      | none => .loop)) := by
  have hended := h.ended_of_event hflight hevent
  apply h.move hc rfl rfl rfl (fun _ _ => Iff.rfl)
  · cases flight.error <;> simp [hpoint, Point.holds]
  · cases flight.error <;> simp [hpoint, Point.owns]
  · cases flight.error <;> simp [hpoint, Point.runs]
  · cases flight.error <;> simp
  · intro g hg
    right
    obtain hwaiting | ⟨hg, hclean⟩ := h.waited c (List.mem_of_getElem? hc) g hg
    · rw [hpoint] at hwaiting
      cases hwaiting
      refine ⟨⟨_, (hended _).mpr rfl⟩, ?_⟩
      intro e he
      simp [← (hended _).mp he]
    · refine ⟨hg, ?_⟩
      intro e he
      have hdone := hclean e he
      rw [hpoint] at hdone
      cases hdone

/-! ## Every step of the table -/

theorem FlightInv.get [DecidableEq κ] [LinearOrder T] {s t : State κ V E T} (h : FlightInv s)
    {n : ℕ} {c : Call κ V E T} (hc : s.calls[n]? = some c) {now : T}
    (hpoint : c.point = .lookup now) (hget : s.get n c now = some t) : FlightInv t := by
  have hmissed : ∀ u : State κ V E T, u.calls = s.calls → u.inflight = s.inflight →
      u.flights = s.flights → u.log = s.log → FlightInv (u.missed n c) := by
    intro u hcalls hinflight hflights hlog
    have hiff : ∀ f error, .ended f error ∈ u.log ↔ .ended f error ∈ s.log := by simp [hlog]
    unfold State.missed
    split
    · apply h.moveActive hc hcalls hinflight hflights hiff <;>
        simp [hpoint, Point.holds, Point.owns, Point.runs]
    · apply h.moveActive hc hcalls hinflight hflights hiff <;>
        simp [hpoint, Point.holds, Point.owns, Point.runs]
  unfold State.get at hget
  split at hget
  · cases hget
    exact hmissed s rfl rfl rfl rfl
  · split_ifs at hget
    · cases hget
      exact hmissed _ rfl rfl rfl rfl
    · obtain ⟨o, -, rfl⟩ := Option.map_eq_some_iff.mp hget
      apply h.moveActive hc <;> simp [hpoint, Point.holds, Point.owns, Point.runs]

/-- `put` copies an object into an entry and leaves the computations alone. -/
theorem State.put_eq [DecidableEq κ] [Add T] {ttl : T} {s t : State κ V E T} {key : κ}
    {object : ℕ} (hput : s.put ttl key object = some t) :
    ∃ o, s.heap[object]? = some o ∧ t = { s with
      heap := s.heap ++ [Object.mk o.content false]
      entries := Function.update s.entries key (some ⟨s.clock + ttl, s.heap.length⟩)
      log := .stored key object o.content :: s.log } := by
  obtain ⟨o, ho, rfl⟩ := Option.map_eq_some_iff.mp hput
  exact ⟨o, ho, rfl⟩

theorem FlightInv.put [DecidableEq κ] [Add T] {ttl : T} {s t : State κ V E T} (h : FlightInv s)
    {key : κ} {object : ℕ} (hput : s.put ttl key object = some t) : FlightInv t := by
  obtain ⟨o, -, rfl⟩ := State.put_eq hput
  apply h.keep <;> simp

theorem FlightInv.callStep [DecidableEq κ] [LinearOrder T] [Add T] {ttl : T}
    {s t : State κ V E T} (h : FlightInv s) {n : ℕ} {c : Call κ V E T}
    (hc : s.calls[n]? = some c) {a : Action κ V E T} (hstep : s.callStep ttl n c a = some t) :
    FlightInv t := by
  cases a with
  | tick now => cases hstep
  | alloc content => cases hstep
  | mutate object content => cases hstep
  | startGet key => cases hstep
  | startPut key object => cases hstep
  | startGetOrCompute key => cases hstep
  | clear => cases hstep
  | readClock m =>
    simp only [State.callStep] at hstep
    split at hstep
    · rename_i hpoint
      cases hstep
      apply h.moveActive hc <;> simp [hpoint, Point.holds, Point.owns, Point.runs]
    · cases hstep
  | get m =>
    simp only [State.callStep] at hstep
    split at hstep
    · rename_i now hpoint
      exact h.get hc hpoint hstep
    · cases hstep
  | inspect m =>
    simp only [State.callStep] at hstep
    split at hstep
    · rename_i hpoint
      cases hstep
      unfold State.inspect
      split
      · rename_i hnone
        exact h.begin hc hpoint hnone
      · rename_i f hf
        exact h.join hc hpoint hf
    · cases hstep
  | wake m =>
    simp only [State.callStep] at hstep
    split at hstep
    · rename_i f hpoint
      split at hstep
      · cases hstep
      · rename_i flight hflight
        split_ifs at hstep with hevent
        cases hstep
        exact h.wake hc hpoint hflight hevent
    · cases hstep
  | beginFactory m =>
    simp only [State.callStep] at hstep
    split at hstep
    · rename_i f hpoint
      cases hstep
      apply h.moveActive hc <;> simp [hpoint, Point.holds, Point.owns, Point.runs]
    · cases hstep
  | endFactory m result =>
    simp only [State.callStep] at hstep
    split at hstep
    · rename_i f hpoint
      have hruns : c.point.runs = some f := by rw [hpoint, Point.runs]
      split at hstep
      · split_ifs at hstep
        cases hstep
        apply h.moveActive hc <;> simp [hpoint, Point.holds, Point.owns, Point.runs]
      · cases hstep
        exact h.leave hc hruns _ _
      · cases hstep
        exact h.leave hc hruns _ _
    · cases hstep
  | put m =>
    simp only [State.callStep] at hstep
    split at hstep
    · rename_i f object hpoint
      obtain ⟨u, hput, rfl⟩ := Option.map_eq_some_iff.mp hstep
      have hcalls : u.calls[n]? = some c := by
        obtain ⟨o, -, rfl⟩ := State.put_eq hput
        exact hc
      exact (h.put hput).leave hcalls (by rw [hpoint, Point.runs]) _ _
    · rename_i object hpoint
      obtain ⟨u, hput, rfl⟩ := Option.map_eq_some_iff.mp hstep
      have hcalls : u.calls[n]? = some c := by
        obtain ⟨o, -, rfl⟩ := State.put_eq hput
        exact hc
      apply (h.put hput).moveActive hcalls <;> simp [hpoint, Point.holds, Point.owns, Point.runs]
    · cases hstep
  | copyFails m e =>
    simp only [State.callStep] at hstep
    split at hstep
    · rename_i now hpoint
      split at hstep
      · cases hstep
      · split_ifs at hstep
        cases hstep
        apply h.moveActive hc <;> simp [hpoint, Point.holds, Point.owns, Point.runs]
    · rename_i f object hpoint
      cases hstep
      exact h.leave hc (by rw [hpoint, Point.runs]) _ _
    · rename_i object hpoint
      cases hstep
      apply h.moveActive hc <;> simp [hpoint, Point.holds, Point.owns, Point.runs]
    · cases hstep
  | pop m =>
    simp only [State.callStep] at hstep
    split at hstep
    · rename_i f result hpoint
      cases hstep
      exact h.pop hc hpoint
    · cases hstep
  | signal m =>
    simp only [State.callStep] at hstep
    split at hstep
    · rename_i f result hpoint
      cases hstep
      exact h.signal hc hpoint
    · cases hstep

theorem FlightInv.step [DecidableEq κ] [LinearOrder T] [Add T] {ttl : T} {s t : State κ V E T}
    (h : FlightInv s) {a : Action κ V E T} (hstep : ObjectCache.step ttl s a = some t) :
    FlightInv t := by
  unfold ObjectCache.step at hstep
  split at hstep
  · split_ifs at hstep
    cases hstep
    exact h.keep rfl rfl rfl fun _ _ => Iff.rfl
  · cases hstep
    exact h.keep rfl rfl rfl fun _ _ => Iff.rfl
  · split_ifs at hstep
    cases hstep
    exact h.keep rfl rfl rfl fun _ _ => Iff.rfl
  · cases hstep
    apply h.start <;> first | rfl | simp
  · split_ifs at hstep
    cases hstep
    apply h.start <;> first | rfl | simp
  · cases hstep
    apply h.start <;> first | rfl | simp
  · cases hstep
    exact h.keep rfl rfl rfl fun _ _ => Iff.rfl
  · split at hstep
    · cases hstep
    · obtain ⟨c, hc, hstep⟩ := Option.bind_eq_some_iff.mp hstep
      exact h.callStep hc hstep

end ConnectionTopology.ObjectCache
