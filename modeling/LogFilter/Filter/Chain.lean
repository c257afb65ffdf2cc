import LogFilter.Filter.Action
import LogFilter.Warning

/-!
# Chains of filters

A filter has an action for the events for which its condition is true. A condition that has no value
for an event, or another value, is taken as not true. In a chain the first filter that is not
neutral about an event decides; if there is none, the chain's default does. Each filter that is
asked about an event warns of a condition without a value, and no filter after the deciding one is
asked.
-/

namespace LogFilter

/-- A condition, and what is done with the events for which it is true. -/
structure Filter where
  condition : Expr
  action : Action

/-- What a filter decides about an event. -/
def Filter.check (filter : Filter) (event : Event) : Action :=
  match filter.condition.evaluate event with
  | .ok (.bool true) => filter.action
  | _ => .neutral

/-- Filters in order, and what is done if none decides. -/
structure Chain where
  filters : List Filter
  defaultAction : Action

namespace Chain

/-- What a chain decides about an event. -/
def decide (chain : Chain) (event : Event) : Action :=
  ((chain.filters.map fun filter => filter.check event).find? fun action => action != .neutral).getD
    chain.defaultAction

/-- The first of some filters, up to the one that decides about an event. -/
def askedOf (event : Event) : List Filter → List Filter
  | [] => []
  | filter :: filters =>
    filter :: if filter.check event = .neutral then askedOf event filters else []

/-- The filters of a chain that are asked about an event. -/
def asked (chain : Chain) (event : Event) : List Filter := askedOf event chain.filters

/-- The warnings of a chain about some events, in order. -/
def warnings (chain : Chain) (events : List Event) : List Warning :=
  events.flatMap fun event =>
    (chain.asked event).filterMap fun filter => filter.condition.warning? event

/-- Whether an event is written. -/
def shouldLog (chain : Chain) (event : Event) : Bool := (chain.decide event).allowsLogging

/-- The events that a chain lets through, in order. -/
def kept (chain : Chain) (events : List Event) : List Event := events.filter chain.shouldLog

/-- The chain that keeps the events for which a condition is true, and no others. -/
def matching (condition : Expr) : Chain := ⟨[⟨condition, .log⟩], .ignore⟩

end Chain

end LogFilter
