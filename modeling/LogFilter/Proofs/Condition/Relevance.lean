import LogFilter.Filter.Chain
import LogFilter.Proofs.Condition.Reproduction
import LogFilter.Proofs.Method.Resolution

/-!
# What a condition sees of an event

A condition with the standard methods sees the level, the logger, the message and the exception of
an event, and those properties that placeholders of its layouts name. Two events that agree on these
are the same to it: it has the same value for both, or fails for both in the same way. So the
timestamp and all other properties make no difference, neither to a condition nor to a chain of
filters.

One lemma says when the two evaluations of an expression go the same way, `evaluate_eq_of_readsAlike`;
that the nodes of parsed conditions do is a lemma for each source of values, methods and layouts.
-/

namespace LogFilter

/-- Two events agree on all but timestamps and properties. -/
structure Event.SameHead (a b : Event) : Prop where
  level : a.level = b.level
  logger : a.logger = b.logger
  message : a.message = b.message
  exception : a.exception = b.exception

/-! ## Layouts -/

namespace Template

variable {a b : Event}

/-- A property that the part names has the same text in both events, where a property that is not
there has the empty text. -/
def Part.ShowsAlike (a b : Event) : Part → Prop
  | property name => (a.propertyText? name).getD "" = (b.propertyText? name).getD ""
  | scopeProperty name => (a.scopePropertyText? name).getD "" = (b.scopePropertyText? name).getD ""
  | _ => True

theorem Part.render_eq {part : Part} (head : a.SameHead b) (h : part.ShowsAlike a b) :
    part.render a = part.render b := by
  cases part with
  | literal text => rfl
  | level => exact congrArg Level.name head.level
  | logger => exact head.logger
  | message => exact head.message
  | exception => rw [Part.render, Part.render, head.exception]
  | property name | scopeProperty name => exact h

theorem renderParts_eq {parts : List Part} (head : a.SameHead b)
    (h : ∀ part ∈ parts, part.ShowsAlike a b) : renderParts a parts = renderParts b parts := by
  have hmap : parts.map (Part.render a) = parts.map (Part.render b) :=
    List.map_congr_left fun part hpart => Part.render_eq head (h part hpart)
  rw [renderParts, renderParts, hmap]

end Template

/-! ## Methods -/

/-- The standard methods do not look at the event. -/
theorem Method.standard_call_eq {name : String} {method : Method}
    (h : (name, method) ∈ Method.standard) (a b : Event) (values : List Value) :
    method.call a values = method.call b values := by
  simp only [standard, List.mem_cons, Prod.mk.injEq, List.not_mem_nil, or_false] at h
  rcases h with ⟨_, rfl⟩ | ⟨_, rfl⟩ | ⟨_, rfl⟩ | ⟨_, rfl⟩ | ⟨_, rfl⟩ | ⟨_, rfl⟩ | ⟨_, rfl⟩ <;> rfl

namespace Expr

variable {a b : Event} {e : Expr}

/-! ## Two runs -/

/-- At this node, the two events make no difference: to what a leaf stands for, or to the method of
a call. -/
def ReadsAlike (a b : Event) : Expr → Prop
  | call _ _ method => ∀ values, method.call a values = method.call b values
  | not _ | and _ _ | or _ _ | relation _ _ _ => True
  | e => evaluate a e = evaluate b e

theorem evaluateAll_eq_of {arguments : List Expr}
    (h : ∀ c ∈ arguments, evaluate a c = evaluate b c) :
    evaluateAll a arguments = evaluateAll b arguments := by
  induction arguments with
  | nil => rfl
  | cons c cs ih =>
    obtain ⟨hc, hcs⟩ := List.forall_mem_cons.1 h
    rw [evaluateAll_cons, evaluateAll_cons, hc, ih hcs]

/-- Where no node makes a difference between two events, the whole expression makes none. -/
theorem evaluate_eq_of_readsAlike (h : e.All (ReadsAlike a b)) : evaluate a e = evaluate b e := by
  induction e using Expr.induction with
  | step e ih =>
    have inside := fun c hc => ih c hc (h.inside hc)
    cases e with
    | call name arguments method =>
      have hcall : ∀ values, method.call a values = method.call b values := h.here
      have hall : evaluateAll a arguments = _ := evaluateAll_eq_of inside
      simp only [evaluate_call, hall, hcall]
    | not c => rw [evaluate, evaluate, inside c (by simp [children])]
    | and c d | or c d | relation r c d =>
      rw [evaluate, evaluate, inside c (by simp [children]), inside d (by simp [children])]
    | _ => exact h.here

/-! ## Parsed conditions -/

/-- Each property that a placeholder of the layout names has the same text in both events. -/
def ShowsAlike (a b : Event) : Expr → Prop
  | layout l => ∀ parts, Template.parse l.template = .ok parts →
      ∀ part ∈ parts, part.ShowsAlike a b
  | _ => True

/-- A node of a parsed condition reads two events alike. -/
theorem IsFormed.readsAlike (h : e.IsFormed .standard) (head : a.SameHead b)
    (hshow : e.ShowsAlike a b) : e.ReadsAlike a b := by
  cases e with
  | layout l =>
    obtain ⟨template, hc⟩ := h
    cases hc with
    | varying hl hfixed =>
      obtain ⟨parts, hparts, rfl⟩ := Template.eq_of_compile hl
      have hrender := Template.renderParts_eq head (hshow parts hparts)
      simp only [ReadsAlike, evaluate, hrender]
  | call name arguments method =>
    obtain ⟨_, registered, hmem, rfl⟩ := Registry.accepts_of_resolve h.2.2
    exact Method.standard_call_eq hmem a b
  | level => simp only [ReadsAlike, evaluate, head.level]
  | logger => simp only [ReadsAlike, evaluate, head.logger]
  | message => simp only [ReadsAlike, evaluate, head.message]
  | exception => simp only [ReadsAlike, evaluate, head.exception]
  | literal v => exact rfl
  | _ => trivial

theorem evaluate_eq_of_parse (head : a.SameHead b) {text : String}
    (h : Expr.parse .standard text = .ok e) (hshow : e.All (ShowsAlike a b)) :
    evaluate a e = evaluate b e :=
  evaluate_eq_of_readsAlike <|
    ((isFormed_of_parse h).and hshow).mono fun _ h => h.1.readsAlike head h.2

end Expr

/-! ## Filters -/

/-- A chain decides by the values of its conditions. -/
theorem Chain.decide_eq_of {a b : Event} {chain : Chain}
    (h : ∀ filter ∈ chain.filters, filter.condition.evaluate a = filter.condition.evaluate b) :
    chain.decide a = chain.decide b := by
  have hchecks : (chain.filters.map fun filter => filter.check a) =
      chain.filters.map fun filter => filter.check b := by
    refine List.map_congr_left fun filter hfilter => ?_
    rw [Filter.check, Filter.check, h filter hfilter]
  rw [Chain.decide, Chain.decide, hchecks]

/-- **A condition with the standard methods sees no more of an event** than level, logger, message,
exception and the texts of the properties that its placeholders name: for two events that agree on
these its value is the same, or else its error, and a chain of such conditions decides the same. -/
theorem Expr.evaluate_of_sameHead {a b : Event} (head : a.SameHead b) :
    (∀ text e, Expr.parse .standard text = .ok e → e.All (ShowsAlike a b) →
      evaluate a e = evaluate b e) ∧
    ∀ chain : Chain,
      (∀ filter ∈ chain.filters,
        (∃ text, Expr.parse .standard text = .ok filter.condition) ∧
          filter.condition.All (ShowsAlike a b)) →
      chain.decide a = chain.decide b := by
  refine ⟨fun text e h hshow => evaluate_eq_of_parse head h hshow, fun chain h => ?_⟩
  refine Chain.decide_eq_of fun filter hfilter => ?_
  obtain ⟨⟨text, hparse⟩, hshow⟩ := h filter hfilter
  exact evaluate_eq_of_parse head hparse hshow

/-- The text of the property `user`. -/
def userLayout : Layout where
  template := "$\x7bevent-property:user\x7d"
  fixedText? := none
  render := fun event => Template.renderParts event [.property "user"]

theorem parse_userLayout : Template.parse userLayout.template = .ok [.property "user"] := by
  have hopens : Text.breakOn Template.opening userLayout.template.toList =
      some ([], "event-property:user\x7d".toList) := by decide +kernel
  have hcloses : Text.breakOn Template.closing "event-property:user\x7d".toList =
      some ("event-property:user".toList, []) := by decide +kernel
  have hplaceholder : Template.placeholder "event-property:user".toList =
      .ok (.property "user") := rfl
  rw [Template.parse, Template.partsOf_placeholder hopens hcloses, hplaceholder,
    Template.partsOf_plain rfl]
  rfl

theorem compile_userLayout : Template.compile userLayout.template = .ok userLayout := by
  rw [Template.compile, parse_userLayout]
  rfl

/-- The condition that the property `user` is the text `alice`. -/
def userIsAlice : Expr := .relation .equal (.layout userLayout) (.literal (.string "alice"))

theorem parse_userIsAlice : Expr.parse .standard userIsAlice.text = .ok userIsAlice := by
  have hname : Text.occursIn Template.opening "alice".toList = false := by decide +kernel
  have hspelled : userIsAlice.All Expr.IsSpelled := by
    rw [userIsAlice, Expr.all_two rfl]
    exact ⟨trivial, (Expr.all_leaf rfl).2 trivial, (Expr.all_leaf rfl).2 trivial⟩
  refine Expr.parse_text_relation hspelled (.string rfl rfl (.varying compile_userLayout rfl))
    (.string rfl rfl (Expr.compiles_self_iff.2 hname)) ?_
  rintro w ⟨⟩
  decide +kernel

/-- A visit of a user to a host, in the first moment of a day. -/
def visit (date : Date) (user host : String) : Event :=
  { Event.plain .info "web" "visit" ⟨date, .midnight⟩ with
    properties := [("user", .string user), ("host", .string host)] }

/-- Neither the day nor the host makes a difference to a condition on the user, and so it makes none
to the chain of the filter with this condition. -/
theorem Expr.evaluate_of_sameHead_visit :
    evaluate (visit ⟨2024, 2, 29, by decide⟩ "alice" "north") userIsAlice =
        evaluate (visit ⟨2025, 1, 1, by decide⟩ "alice" "south") userIsAlice ∧
      (Chain.matching userIsAlice).decide (visit ⟨2024, 2, 29, by decide⟩ "alice" "north") =
        (Chain.matching userIsAlice).decide (visit ⟨2025, 1, 1, by decide⟩ "alice" "south") := by
  have head : (visit ⟨2024, 2, 29, by decide⟩ "alice" "north").SameHead
      (visit ⟨2025, 1, 1, by decide⟩ "alice" "south") := ⟨rfl, rfl, rfl, rfl⟩
  have hshow : userIsAlice.All (ShowsAlike (visit ⟨2024, 2, 29, by decide⟩ "alice" "north")
      (visit ⟨2025, 1, 1, by decide⟩ "alice" "south")) := by
    rw [userIsAlice, Expr.all_two rfl]
    refine ⟨trivial, (Expr.all_leaf rfl).2 fun parts hparts => ?_, (Expr.all_leaf rfl).2 trivial⟩
    obtain rfl := Except.ok.inj (parse_userLayout.symm.trans hparts)
    rintro part (_ | ⟨_, ⟨⟩⟩)
    rfl
  obtain ⟨hevaluate, hdecide⟩ := Expr.evaluate_of_sameHead head
  refine ⟨hevaluate _ _ parse_userIsAlice hshow, hdecide _ fun filter hfilter => ?_⟩
  obtain rfl := List.mem_singleton.1 hfilter
  exact ⟨⟨_, parse_userIsAlice⟩, hshow⟩

end LogFilter
