import LogFilter.Proofs.Method.Searches
import LogFilter.Proofs.Text.Lowercase

/-!
# Text methods that ignore case

The methods that look for the second text in the first compare the texts as they are or by their
lower case. Both texts are lowered apart, so a capital sigma of the second one can get another form
than it has inside the first. Then the texts match as they are, but no longer when case is ignored:
`starts-with('ΑΣΑ', 'ΑΣ')` compares `ασα` with `ας` (`Method.match_lost_ignoringCase`).

A match is kept if the sigmas of the second text keep their forms at a place where it occurs
(`Method.match_kept_ignoringCase`). For the methods that look at one place only this is necessary too.
`strequals` never loses a match, and no method loses one for a second text that neither begins nor
ends with a sigma.
-/

namespace LogFilter

open Text (SigmasKept lower)

namespace TextRelation

/-- A place where a text occurs in another one: what comes before it and after it. At a side where
the relation is anchored nothing else is there. -/
structure Occurs (atStart atEnd : Bool) (word text before after : List Char) : Prop where
  text_eq : text = before ++ word ++ after
  start : atStart = true → before = []
  stop : atEnd = true → after = []

/-- A relation that holds if the second text occurs in the first one. -/
def Finds (relation : TextRelation) (atStart atEnd : Bool) : Prop :=
  ∀ text word, relation text word = true ↔
    ∃ before after, Occurs atStart atEnd word text before after

theorem finds_equal : equal.Finds true true := by
  intro text word
  rw [equal_iff]
  constructor
  · rintro rfl
    exact ⟨[], [], by simp, fun _ => rfl, fun _ => rfl⟩
  · rintro ⟨before, after, htext, hstart, hstop⟩
    rw [htext, hstart rfl, hstop rfl]
    simp

theorem finds_startsWith : startsWith.Finds true false := by
  intro text word
  rw [startsWith_iff]
  constructor
  · rintro ⟨after, rfl⟩
    exact ⟨[], after, rfl, fun _ => rfl, by simp⟩
  · rintro ⟨before, after, htext, hstart, -⟩
    rw [hstart rfl] at htext
    exact ⟨after, htext⟩

theorem finds_endsWith : endsWith.Finds false true := by
  intro text word
  rw [endsWith_iff]
  constructor
  · rintro ⟨before, rfl⟩
    exact ⟨before, [], by simp, by simp, fun _ => rfl⟩
  · rintro ⟨before, after, htext, -, hstop⟩
    rw [hstop rfl, List.append_nil] at htext
    exact ⟨before, htext⟩

theorem finds_contains : contains.Finds false false := by
  intro text word
  rw [contains_iff]
  constructor
  · rintro ⟨before, after, rfl⟩
    exact ⟨before, after, rfl, by simp, by simp⟩
  · rintro ⟨before, after, htext, -, -⟩
    exact ⟨before, after, htext⟩

variable {relation : TextRelation} {atStart atEnd : Bool} {text word before after : List Char}

/-- A text that is lowered at its place as it is alone is still found. -/
theorem Finds.lower_of_sigmasKept (h : relation.Finds atStart atEnd)
    (ho : Occurs atStart atEnd word text before after)
    (hkept : SigmasKept before.reverse after word) :
    relation (lower text) (lower word) = true := by
  have htext : lower text =
      Text.lowerBetween [] (word ++ after) before ++ lower word ++
        Text.lowerBetween (word.reverse ++ before.reverse) [] after := by
    rw [ho.text_eq, Text.lower_append, Text.lowerBetween_eq_lower_iff.2 hkept]
  refine (h _ _).2 ⟨_, _, htext, fun hs => ?_, fun hs => ?_⟩
  · rw [ho.start hs]
    rfl
  · rw [ho.stop hs]
    rfl

/-- At an end of the text there is only one place for the second text. -/
theorem Finds.sigmasKept_of_lower (h : relation.Finds atStart atEnd)
    (hanchored : atStart = true ∨ atEnd = true)
    (ho : Occurs atStart atEnd word text before after)
    (hlower : relation (lower text) (lower word) = true) :
    SigmasKept before.reverse after word := by
  obtain ⟨before', after', htext, hstart, hstop⟩ := (h _ _).1 hlower
  rw [ho.text_eq, Text.lower_append] at htext
  have hlength := Text.length_lowerBetween_eq before.reverse after word
  refine Text.lowerBetween_eq_lower_iff.1 ?_
  rcases hanchored with hs | hs
  · rw [ho.start hs, hstart hs] at htext
    rw [ho.start hs] at hlength ⊢
    exact (List.append_inj htext hlength).1
  · rw [ho.stop hs, hstop hs] at htext
    rw [ho.stop hs] at hlength ⊢
    simp only [Text.lowerBetween, List.append_nil] at htext
    exact (List.append_inj' htext hlength).2

end TextRelation

/-! ## The methods -/

namespace Method

/-- What the arguments after the two texts say about case. -/
inductive Search.Reads (search : Search) : List Value → Bool → Prop
  | default : Reads search [] search.ignoresCase
  | flag {v : Value} {ignoresCase : Bool} (h : v.flag = .ok ignoresCase) :
      Reads search [v] ignoresCase

variable {search : Search}

theorem Search.finds (h : search ∈ searches) :
    search.relation.Finds search.atStart search.atEnd := by
  simp only [searches, List.mem_cons, List.not_mem_nil, or_false] at h
  rcases h with rfl | rfl | rfl | rfl
  · exact TextRelation.finds_equal
  · exact TextRelation.finds_contains
  · exact TextRelation.finds_startsWith
  · exact TextRelation.finds_endsWith

theorem Search.Reads.length {options : List Value} {ignoresCase : Bool}
    (h : search.Reads options ignoresCase) : options.length + 2 = 2 ∨ options.length + 2 = 3 := by
  cases h <;> simp

theorem run_ofRelation_flag {flag : Value} {ignoresCase : Bool} (h : flag.flag = .ok ignoresCase)
    (default : Bool) (relation : TextRelation) (event : Option Event) (a b : Value) :
    (ofRelation default relation).run event [a, b, flag] =
      .ok (.bool (relation.holds ignoresCase a.text.toList b.text.toList)) := by
  simp [ofRelation, h, Except.map]

theorem Search.Reads.run_eq {options : List Value} {ignoresCase : Bool}
    (h : search.Reads options ignoresCase) (event : Option Event) (a b : Value) :
    (ofRelation search.ignoresCase search.relation).run event (a :: b :: options) =
      .ok (.bool (search.relation.holds ignoresCase a.text.toList b.text.toList)) := by
  cases h with
  | default => rfl
  | flag h => exact run_ofRelation_flag h search.ignoresCase search.relation event a b

/-- At some place where the second text occurs in the first, all its capital sigmas have the form
that they have in the second text alone. -/
def Search.KeepsSigmas (search : Search) (text word : List Char) : Prop :=
  ∃ before after, TextRelation.Occurs search.atStart search.atEnd word text before after ∧
    SigmasKept before.reverse after word

/-- Texts that are equal have nothing around them, and at an edge without a sigma it does not matter
what is around. -/
theorem Search.keepsSigmas_of_edges {text word : List Char} (h : search ∈ searches)
    (hmatch : search.relation text word = true)
    (hedges : search.name = "strequals" ∨
      Text.edge word ≠ some 'Σ' ∧ Text.edge word.reverse ≠ some 'Σ') :
    search.KeepsSigmas text word := by
  obtain ⟨before, after, hoccurs⟩ := (Search.finds h text word).1 hmatch
  refine ⟨before, after, hoccurs, ?_⟩
  rcases hedges with hname | ⟨hfirst, hlast⟩
  · simp only [searches, List.mem_cons, List.not_mem_nil, or_false] at h
    rcases h with rfl | rfl | rfl | rfl
    · rw [hoccurs.start rfl, hoccurs.stop rfl]
      exact Text.sigmasKept_nil word
    all_goals exact absurd hname (by decide)
  · exact Text.sigmasKept_of_edges hfirst hlast before.reverse after

/-- **Which matches are kept when case is ignored.** A text that is found as it is, is also found
when case is ignored if its sigmas keep their forms at a place where it was found. For a method that
looks at the beginning or at the end this is the only way. It is so for `strequals`, and for a text
whose outermost characters that count are no sigmas. -/
theorem match_kept_ignoringCase (hsearch : search ∈ searches)
    {exact ignoring : List Value} (hexact : search.Reads exact false)
    (hignoring : search.Reads ignoring true) {method method' : Method}
    (hmethod : Registry.standard.resolve search.name (exact.length + 2) = .ok (some method))
    (hmethod' : Registry.standard.resolve search.name (ignoring.length + 2) = .ok (some method'))
    {event event' : Option Event} {a b : Value}
    (hmatch : method.run event (a :: b :: exact) = .ok (.bool true)) :
    (search.KeepsSigmas a.text.toList b.text.toList →
        method'.run event' (a :: b :: ignoring) = .ok (.bool true)) ∧
      (search.atStart = true ∨ search.atEnd = true →
        method'.run event' (a :: b :: ignoring) = .ok (.bool true) →
          search.KeepsSigmas a.text.toList b.text.toList) ∧
      (search.name = "strequals" ∨
          Text.edge b.text.toList ≠ some 'Σ' ∧ Text.edge b.text.toList.reverse ≠ some 'Σ' →
        method'.run event' (a :: b :: ignoring) = .ok (.bool true)) := by
  rw [Search.resolve_eq hsearch hexact.length] at hmethod
  rw [Search.resolve_eq hsearch hignoring.length] at hmethod'
  obtain rfl : _ = method := Option.some.inj (Except.ok.inj hmethod)
  obtain rfl : _ = method' := Option.some.inj (Except.ok.inj hmethod')
  rw [hexact.run_eq, Except.ok.injEq, Value.bool.injEq] at hmatch
  rw [hignoring.run_eq, Except.ok.injEq, Value.bool.injEq]
  have hfinds := Search.finds hsearch
  have hkept (hk : search.KeepsSigmas a.text.toList b.text.toList) :
      search.relation (lower a.text.toList) (lower b.text.toList) = true := by
    obtain ⟨before, after, hoccurs, hsigmas⟩ := hk
    exact hfinds.lower_of_sigmasKept hoccurs hsigmas
  refine ⟨hkept, fun hanchored hlower => ?_, fun hedges => ?_⟩
  · obtain ⟨before, after, hoccurs⟩ := (hfinds _ _).1 hmatch
    exact ⟨before, after, hoccurs, hfinds.sigmasKept_of_lower hanchored hoccurs hlower⟩
  · exact hkept (Search.keepsSigmas_of_edges hsearch hmatch hedges)

/-- A text keeps its final sigma where no letter follows it, so it is found at the beginning of the
other one as it is and when case is ignored. -/
theorem match_kept_ignoringCase_startsWith :
    ∃ method, Registry.standard.resolve "starts-with" 3 = .ok (some method) ∧
      method.run none [.string "ΟΔΟΣ 7", .string "ΟΔΟΣ", .bool false] = .ok (.bool true) ∧
      method.run none [.string "ΟΔΟΣ 7", .string "ΟΔΟΣ", .bool true] = .ok (.bool true) := by
  let search : Search := ⟨"starts-with", TextRelation.startsWith, true, true, false⟩
  have hsearch : search ∈ searches := by simp [searches, search]
  have hflag (ignoresCase : Bool) : search.Reads [.bool ignoresCase] ignoresCase := .flag rfl
  have hmatch : (ofRelation true TextRelation.startsWith).run none
      [.string "ΟΔΟΣ 7", .string "ΟΔΟΣ", .bool false] = .ok (.bool true) := by
    rw [run_ofRelation_flag rfl, show TextRelation.startsWith.holds false _ _ = true by
      decide +kernel]
  have hkeeps : search.KeepsSigmas "ΟΔΟΣ 7".toList "ΟΔΟΣ".toList := by
    refine ⟨[], " 7".toList, ⟨by decide, fun _ => rfl, fun h => Bool.noConfusion h⟩, ?_⟩
    exact Text.lowerBetween_eq_lower_iff.1 (by decide +kernel)
  have hmethod := Search.resolve_eq hsearch (.inr rfl)
  refine ⟨_, hmethod, hmatch, ?_⟩
  exact (match_kept_ignoringCase hsearch (hflag false) (hflag true) hmethod hmethod hmatch).1 hkeeps

/-- A text at the beginning of another one that is not found there when case is ignored: its own
sigma gets the final form, and that of the other text does not. -/
theorem match_lost_ignoringCase :
    ∃ method, Registry.standard.resolve "starts-with" 3 = .ok (some method) ∧
      method.run none [.string "ΑΣΑ", .string "ΑΣ", .bool false] = .ok (.bool true) ∧
      method.run none [.string "ΑΣΑ", .string "ΑΣ", .bool true] = .ok (.bool false) := by
  refine ⟨ofRelation true TextRelation.startsWith, rfl, ?_, ?_⟩
  · rw [run_ofRelation_flag rfl, show TextRelation.startsWith.holds false _ _ = true by
      decide +kernel]
  · rw [run_ofRelation_flag rfl, show TextRelation.startsWith.holds true _ _ = false by
      decide +kernel]

end Method

end LogFilter
