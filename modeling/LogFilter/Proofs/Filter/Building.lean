import LogFilter.Except
import LogFilter.Filter.Config
import LogFilter.Proofs.FirstFailure
import Mathlib.Data.List.Forall2

/-!
# Chains built from rules

A chain is built if and only if the condition of every rule can be parsed. Then each rule has given
the filter at its own place (`Rule.Gives`), and the chain's default is that of the rules. Otherwise
the first rule that cannot be parsed is told, whatever comes after it
(`ConditionError.TellsFirst`).
-/

namespace LogFilter

variable {env : Surroundings} {rule : Rule} {rules : List Rule}

/-! ## Rules -/

/-- The condition of the rule can be parsed. -/
def Rule.Parses (env : Surroundings) (rule : Rule) : Prop :=
  ∃ condition, Expr.parse env rule.condition = .ok condition

/-- The filter has the condition that is the rule's text, and it has the rule's action. -/
structure Rule.Gives (env : Surroundings) (rule : Rule) (filter : Filter) : Prop where
  parse_eq : Expr.parse env rule.condition = .ok filter.condition
  action_eq : filter.action = rule.action

theorem Rule.parses_iff_exists_gives : rule.Parses env ↔ ∃ filter, rule.Gives env filter := by
  constructor
  · rintro ⟨condition, hparse⟩
    exact ⟨⟨condition, rule.action⟩, hparse, rfl⟩
  · rintro ⟨filter, hgives⟩
    exact ⟨filter.condition, hgives.parse_eq⟩

/-- Rules that can be parsed, and no others, give filters. -/
theorem Rule.forall_parses_iff :
    (∀ rule ∈ rules, rule.Parses env) ↔ ∃ filters, List.Forall₂ (Rule.Gives env) rules filters := by
  induction rules with
  | nil => simp
  | cons rule rules ih =>
    rw [List.forall_mem_cons, ih, Rule.parses_iff_exists_gives]
    constructor
    · rintro ⟨⟨filter, hfilter⟩, filters, hfilters⟩
      exact ⟨filter :: filters, .cons hfilter hfilters⟩
    · rintro ⟨_, hgives⟩
      cases hgives with
      | cons hfilter hfilters => exact ⟨⟨_, hfilter⟩, _, hfilters⟩

/-- The error tells of the first of the rules that cannot be parsed: it has the place of that rule,
its text, and the error of that text. -/
def ConditionError.TellsFirst (env : Surroundings) (rules : List Rule) (error : ConditionError) :
    Prop :=
  ∃ rule, FailsFirst (Rule.Parses env) rules error.index rule ∧ error.condition = rule.condition ∧
    Expr.parse env rule.condition = .error error.cause

/-! ## Building -/

namespace Config

theorem filtersFrom_eq_ok_iff {start : Nat} {filters : List Filter} :
    filtersFrom env start rules = .ok filters ↔ List.Forall₂ (Rule.Gives env) rules filters := by
  induction rules generalizing start filters with
  | nil => simp [filtersFrom, eq_comm]
  | cons rule rules ih =>
    rw [filtersFrom]
    cases hparse : Expr.parse env rule.condition with
    | error cause =>
      refine iff_of_false (by simp) fun hgives => ?_
      cases hgives with
      | cons hfilter _ => exact absurd (hparse.symm.trans hfilter.parse_eq) (by simp)
    | ok condition =>
      simp only [Except.map_eq_ok, ih]
      constructor
      · rintro ⟨others, hothers, rfl⟩
        exact .cons ⟨hparse, rfl⟩ hothers
      · intro hgives
        cases hgives with
        | @cons _ filter _ others hfilter hothers =>
          obtain rfl : condition = filter.condition :=
            Except.ok.inj (hparse.symm.trans hfilter.parse_eq)
          exact ⟨others, hothers, by rw [← hfilter.action_eq]⟩

/-- Rules are counted on from the place of the first one. -/
theorem filtersFrom_eq_error_iff {start : Nat} {error : ConditionError} :
    filtersFrom env start rules = .error error ↔
      ∃ i rule, FailsFirst (Rule.Parses env) rules i rule ∧
        ∃ cause, Expr.parse env rule.condition = .error cause ∧
          error = ⟨start + i, rule.condition, cause⟩ := by
  induction rules generalizing start with
  | nil => simp [filtersFrom, not_failsFirst_nil]
  | cons rule rules ih =>
    rw [filtersFrom]
    cases hparse : Expr.parse env rule.condition with
    | error cause =>
      have hfails : ¬rule.Parses env := by simp [Rule.Parses, hparse]
      rw [exists_failsFirst_cons_of_not hfails, hparse]
      simp [eq_comm]
    | ok condition =>
      have hpasses : rule.Parses env := ⟨condition, hparse⟩
      rw [exists_failsFirst_cons_of_passes hpasses, Except.map_eq_error, ih]
      simp only [Nat.add_assoc, Nat.add_comm 1]

/-- **A chain is built exactly if all its rules can be parsed.** Then it has the default of the
rules, and at each place the filter that the rule there gives. Otherwise the error tells of the
first rule that cannot be parsed. -/
theorem chain_of_rules (config : Config) (env : Surroundings) :
    ((∃ chain, config.chain env = .ok chain) ↔ ∀ rule ∈ config.rules, rule.Parses env) ∧
      (∀ chain, config.chain env = .ok chain ↔
        chain.defaultAction = config.defaultAction ∧
          List.Forall₂ (Rule.Gives env) config.rules chain.filters) ∧
      ∀ error, config.chain env = .error error ↔ error.TellsFirst env config.rules := by
  have hok (chain : Chain) : config.chain env = .ok chain ↔
      chain.defaultAction = config.defaultAction ∧
        List.Forall₂ (Rule.Gives env) config.rules chain.filters := by
    obtain ⟨filters, defaultAction⟩ := chain
    rw [Config.chain, Except.map_eq_ok, ← filtersFrom_eq_ok_iff]
    constructor
    · rintro ⟨all, hall, hchain⟩
      obtain ⟨rfl, rfl⟩ := Chain.mk.inj hchain
      exact ⟨rfl, hall⟩
    · rintro ⟨rfl, hall⟩
      exact ⟨filters, hall, rfl⟩
  refine ⟨?_, hok, fun error => ?_⟩
  · rw [Rule.forall_parses_iff]
    constructor
    · rintro ⟨chain, hchain⟩
      exact ⟨chain.filters, ((hok chain).1 hchain).2⟩
    · rintro ⟨filters, hfilters⟩
      exact ⟨⟨filters, config.defaultAction⟩, (hok _).2 ⟨rfl, hfilters⟩⟩
  · rw [Config.chain, Except.map_eq_error, filtersFrom_eq_error_iff]
    constructor
    · rintro ⟨i, rule, hfirst, cause, hcause, rfl⟩
      exact ⟨rule, by rwa [Nat.zero_add], rfl, hcause⟩
    · rintro ⟨rule, hfirst, hcondition, hcause⟩
      refine ⟨error.index, rule, hfirst, error.cause, hcause, ?_⟩
      rw [Nat.zero_add, ← hcondition]

end Config

end LogFilter
