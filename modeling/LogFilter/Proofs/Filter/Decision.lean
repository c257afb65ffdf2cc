import LogFilter.Filter.Chain
import Mathlib.Data.List.Basic

/-!
# What a chain decides

The first filter that decides about an event gives the decision of a chain, and the default gives it
if none does. A filter decides if it is not neutral and its condition is true for the event
(`Filter.Decides`); it abstains for one of three reasons (`Filter.Abstains`), and it does one or the
other (`Filter.abstains_iff`).

What a chain decides is said one filter at a time, in `Chain.decide_cons_of_decides` and
`Chain.decide_cons_of_abstains`. From these come the statements on whole chains, which
`Chain.first_decides` puts together.

The filters up to the one that decides are asked, and no others (`Chain.askedOf_of_decides`); all
are asked if none decides.
-/

namespace LogFilter

/-! ## Events for which a condition is true -/

/-- Whether a condition is true for an event; not so if it has another value or none. -/
def Expr.isTrueFor (condition : Expr) (event : Event) : Bool :=
  match condition.evaluate event with
  | .ok (.bool true) => true
  | _ => false

theorem Expr.isTrueFor_iff {condition : Expr} {event : Event} :
    condition.isTrueFor event = true ↔ condition.evaluate event = .ok (.bool true) := by
  unfold isTrueFor
  split
  · next h => simp [h]
  · next h => exact iff_of_false Bool.false_ne_true h

variable {event : Event}

/-! ## Filters -/

namespace Filter

variable {filter : Filter}

/-- A filter decides only about the events for which its condition is true. -/
theorem check_eq (condition : Expr) (action : Action) (event : Event) :
    Filter.check ⟨condition, action⟩ event =
      if condition.isTrueFor event then action else .neutral := by
  unfold Filter.check
  split
  · next h => rw [if_pos (Expr.isTrueFor_iff.2 h)]
  · next h => rw [if_neg fun htrue => h (Expr.isTrueFor_iff.1 htrue)]

/-- The filter has an action for the event: it is not neutral and its condition is true. -/
def Decides (event : Event) (filter : Filter) : Prop :=
  filter.action ≠ .neutral ∧ filter.condition.evaluate event = .ok (.bool true)

/-- The filter has no action for the event: it is neutral, or its condition fails, or its condition
has another value than true. -/
def Abstains (event : Event) (filter : Filter) : Prop :=
  filter.action = .neutral ∨ (∃ error, filter.condition.evaluate event = .error error) ∨
    ∃ v, filter.condition.evaluate event = .ok v ∧ v ≠ .bool true

theorem abstains_iff : filter.Abstains event ↔ ¬filter.Decides event := by
  unfold Abstains Decides
  by_cases hneutral : filter.action = .neutral
  · simp [hneutral]
  · cases filter.condition.evaluate event <;> simp [hneutral]

theorem check_of_decides (h : filter.Decides event) : filter.check event = filter.action := by
  rw [check, h.2]

theorem check_of_abstains (h : filter.Abstains event) : filter.check event = .neutral := by
  obtain ⟨condition, action⟩ := filter
  rw [check_eq]
  split
  · next htrue =>
    by_cases hneutral : action = .neutral
    · exact hneutral
    · exact absurd ⟨hneutral, Expr.isTrueFor_iff.1 htrue⟩ (abstains_iff.1 h)
  · rfl

end Filter

/-! ## Chains -/

namespace Chain

variable {filter : Filter} {filters : List Filter}

theorem decide_cons (filter : Filter) (filters : List Filter) (default : Action) :
    decide ⟨filter :: filters, default⟩ event =
      if filter.check event = .neutral then decide ⟨filters, default⟩ event
      else filter.check event := by
  by_cases h : filter.check event = .neutral
  · simp [decide, h]
  · simp [decide, h]

theorem decide_cons_of_decides (h : filter.Decides event) (default : Action) :
    decide ⟨filter :: filters, default⟩ event = filter.action := by
  rw [decide_cons, Filter.check_of_decides h, if_neg h.1]

theorem decide_cons_of_abstains (h : filter.Abstains event) (default : Action) :
    decide ⟨filter :: filters, default⟩ event = decide ⟨filters, default⟩ event := by
  rw [decide_cons, if_pos (Filter.check_of_abstains h)]

/-- **A chain that goes on** leaves to its second part what the first does not decide. -/
theorem decide_append (first second : List Filter) (default : Action) :
    decide ⟨first ++ second, default⟩ event =
      decide ⟨first, decide ⟨second, default⟩ event⟩ event := by
  induction first with
  | nil => rfl
  | cons filter first ih =>
    rw [List.cons_append]
    by_cases h : filter.Decides event
    · rw [decide_cons_of_decides h, decide_cons_of_decides h]
    · have habstains := Filter.abstains_iff.2 h
      rw [decide_cons_of_abstains habstains, decide_cons_of_abstains habstains, ih]

/-- Filters inserted at any positions of a list, all of which abstain. -/
inductive Inserts (event : Event) : List Filter → List Filter → Prop
  | nil : Inserts event [] []
  | keep (filter : Filter) {filters more : List Filter} (h : Inserts event filters more) :
      Inserts event (filter :: filters) (filter :: more)
  | insert {filter : Filter} {filters more : List Filter} (ha : filter.Abstains event)
      (h : Inserts event filters more) : Inserts event filters (filter :: more)

/-- **Filters that abstain make no difference.** -/
theorem decide_of_inserts {more : List Filter} (h : Inserts event filters more)
    (default : Action) : decide ⟨more, default⟩ event = decide ⟨filters, default⟩ event := by
  induction h with
  | nil => rfl
  | keep filter _ ih =>
    by_cases hd : filter.Decides event
    · rw [decide_cons_of_decides hd, decide_cons_of_decides hd]
    · have habstains := Filter.abstains_iff.2 hd
      rw [decide_cons_of_abstains habstains, decide_cons_of_abstains habstains, ih]
  | insert ha _ ih => rw [decide_cons_of_abstains ha, ih]

/-- A list of filters that all abstain is inserted into the empty one. -/
theorem inserts_nil (h : ∀ filter ∈ filters, filter.Abstains event) : Inserts event [] filters := by
  induction filters with
  | nil => exact .nil
  | cons filter filters ih =>
    obtain ⟨hfilter, hfilters⟩ := List.forall_mem_cons.1 h
    exact .insert hfilter (ih hfilters)

theorem decide_of_abstain (h : ∀ filter ∈ filters, filter.Abstains event) (default : Action) :
    decide ⟨filters, default⟩ event = default :=
  decide_of_inserts (inserts_nil h) default

/-- **The first filter that decides gives the decision**, and the default gives it if there is none.
So filters that abstain can be inserted or taken away at any positions, and a chain may be cut in
two, of which the second is the default of the first. -/
theorem first_decides (event : Event) :
    (∀ before filter after default, (∀ other ∈ before, ¬other.Decides event) →
      filter.Decides event →
      decide ⟨before ++ filter :: after, default⟩ event = filter.action) ∧
    (∀ filters default, (∀ filter ∈ filters, ¬filter.Decides event) →
      decide ⟨filters, default⟩ event = default) ∧
    (∀ filters more default, Inserts event filters more →
      decide ⟨more, default⟩ event = decide ⟨filters, default⟩ event) ∧
    ∀ first second default,
      decide ⟨first ++ second, default⟩ event =
        decide ⟨first, decide ⟨second, default⟩ event⟩ event := by
  have abstain {filters : List Filter} (h : ∀ filter ∈ filters, ¬filter.Decides event) :
      ∀ filter ∈ filters, filter.Abstains event := by
    intro filter hfilter
    exact Filter.abstains_iff.2 (h filter hfilter)
  refine ⟨?_, ?_, ?_, ?_⟩
  · intro before filter after default hbefore hd
    rw [decide_append, decide_of_abstain (abstain hbefore), decide_cons_of_decides hd]
  · intro filters default h
    exact decide_of_abstain (abstain h) default
  · intro filters more default h
    exact decide_of_inserts h default
  · intro first second default
    exact decide_append first second default

/-- An error of which the event reports an exception. -/
def failedWrite : Event :=
  { Event.plain .error "disk" "write failed" ⟨⟨2024, 2, 29, by decide⟩, .midnight⟩ with
    exception := some ⟨"IoError", "disk full"⟩ }

/-- Three filters that abstain about the failed write: the first condition fails because an
exception has nothing in common with a number, the second is true but its filter is neutral, and the
third has a text for its value. -/
def abstaining : List Filter :=
  [⟨.relation .equal .exception (.literal (.int 1)), .ignoreFinal⟩,
    ⟨.literal (.bool true), .neutral⟩, ⟨.message, .ignore⟩]

/-- The filter that logs errors. -/
def errorsLogged : Filter := ⟨.relation .greaterOrEqual .level (.literal (.level .error)), .log⟩

theorem abstain_failedWrite : ∀ filter ∈ abstaining, filter.Abstains failedWrite := by
  refine List.forall_mem_cons.2 ⟨.inr (.inl ⟨_, rfl⟩), List.forall_mem_cons.2 ⟨.inl rfl, ?_⟩⟩
  exact List.forall_mem_singleton.2 (.inr (.inr ⟨_, rfl, by simp⟩))

theorem decides_failedWrite : errorsLogged.Decides failedWrite := ⟨by decide, rfl⟩

/-- Behind the filters that abstain the error is still logged, as it is without them. -/
theorem first_decides_failedWrite :
    decide ⟨abstaining ++ errorsLogged :: abstaining, .ignore⟩ failedWrite = .log ∧
      decide ⟨abstaining, .ignore⟩ failedWrite = .ignore ∧
      decide ⟨abstaining ++ [errorsLogged], .ignore⟩ failedWrite =
        decide ⟨[errorsLogged], .ignore⟩ failedWrite := by
  obtain ⟨hfirst, hnone, hinserts, -⟩ := first_decides failedWrite
  have hnot : ∀ filter ∈ abstaining, ¬filter.Decides failedWrite :=
    fun filter h => Filter.abstains_iff.1 (abstain_failedWrite filter h)
  refine ⟨hfirst _ _ _ _ hnot decides_failedWrite, hnone _ _ hnot, hinserts _ _ _ ?_⟩
  obtain ⟨h1, h⟩ := List.forall_mem_cons.1 abstain_failedWrite
  obtain ⟨h2, h⟩ := List.forall_mem_cons.1 h
  exact .insert h1 (.insert h2 (.insert (List.forall_mem_singleton.1 h) (.keep _ .nil)))

/-! ## Filters that are asked -/

theorem askedOf_append (before filters : List Filter)
    (hbefore : ∀ other ∈ before, other.Abstains event) :
    askedOf event (before ++ filters) = before ++ askedOf event filters := by
  induction before with
  | nil => rfl
  | cons filter before ih =>
    obtain ⟨hfilter, hbefore⟩ := List.forall_mem_cons.1 hbefore
    rw [List.cons_append, askedOf, if_pos (Filter.check_of_abstains hfilter), ih hbefore,
      List.cons_append]

/-- All filters are asked if none decides. -/
theorem askedOf_of_abstain (h : ∀ filter ∈ filters, filter.Abstains event) :
    askedOf event filters = filters := by
  simpa [askedOf] using askedOf_append filters [] h

/-- **No filter is asked after the first one that decides.** -/
theorem askedOf_of_decides {before : List Filter} (hbefore : ∀ other ∈ before, other.Abstains event)
    (h : filter.Decides event) (after : List Filter) :
    askedOf event (before ++ filter :: after) = before ++ [filter] := by
  have hcheck : filter.check event ≠ .neutral := Filter.check_of_decides h ▸ h.1
  rw [askedOf_append before _ hbefore, askedOf, if_neg hcheck]

/-! ## Chains with one condition -/

/-- A chain with one condition lets an event through if the condition is true for it. -/
theorem shouldLog_matching (condition : Expr) (event : Event) :
    (Chain.matching condition).shouldLog event = condition.isTrueFor event := by
  unfold shouldLog decide matching
  rw [List.map_singleton, Filter.check_eq]
  cases condition.isTrueFor event with
  | true => rfl
  | false => rfl

theorem kept_matching (condition : Expr) (events : List Event) :
    (Chain.matching condition).kept events = events.filter condition.isTrueFor :=
  List.filter_congr fun event _ => shouldLog_matching condition event

/-- A chain with one condition warns once of each event for which the condition has no value. -/
theorem warnings_matching (condition : Expr) (events : List Event) :
    (Chain.matching condition).warnings events = events.filterMap condition.warning? := by
  have hasked (event : Event) : (Chain.matching condition).asked event = [⟨condition, .log⟩] := by
    simp [asked, matching, askedOf]
  rw [warnings, List.filterMap_eq_flatMap_toList]
  refine List.flatMap_congr fun event _ => ?_
  rw [hasked, List.filterMap_cons]
  cases condition.warning? event <;> rfl

end Chain

end LogFilter
