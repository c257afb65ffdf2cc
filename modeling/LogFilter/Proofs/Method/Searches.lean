import LogFilter.Method.Standard
import LogFilter.Proofs.Text.Cuts
import LogFilter.Proofs.Value.Promotion

/-!
# Methods that look for a text

Four standard methods look for the text of their second argument in that of the first: as all of
it, at its beginning, at its end or anywhere in it. A third argument says whether case is ignored,
and each method has a default for this (`Method.flag?`). Both texts are then compared as they are or
by their lower case (`Method.compared`).

Each method decides just this question about all values, and fails only for a third value that is no
flag (`Method.searches_decide`). So under one flag the methods are ordered as their questions are: a
text that is all of another one is at its beginning and at its end, and what is there is in it.
-/

namespace LogFilter

namespace TextRelation

variable {text word : List Char}

theorem equal_iff : equal text word = true ↔ text = word := beq_iff_eq

theorem startsWith_iff : startsWith text word = true ↔ ∃ after, text = word ++ after := by
  rw [startsWith, List.isPrefixOf_iff_prefix]
  exact exists_congr fun _ => eq_comm

theorem endsWith_iff : endsWith text word = true ↔ ∃ before, text = before ++ word := by
  rw [endsWith, List.isSuffixOf_iff_suffix]
  exact exists_congr fun _ => eq_comm

theorem contains_iff :
    contains text word = true ↔ ∃ before after, text = before ++ word ++ after := by
  rw [contains, Text.occursIn_iff_isInfix]
  exact exists_congr fun _ => exists_congr fun _ => eq_comm

end TextRelation

namespace Method

/-! ## The methods -/

/-- A standard method that looks for its second text in the first. -/
structure Search where
  name : String
  relation : TextRelation
  /-- Whether case is ignored in a call without a flag. -/
  ignoresCase : Bool
  /-- Whether the second text has to be at the beginning. -/
  atStart : Bool
  /-- Whether the second text has to be at the end. -/
  atEnd : Bool

/-- The methods of the registry that look for a text. -/
def searches : List Search :=
  [⟨"strequals", TextRelation.equal, false, true, true⟩,
    ⟨"contains", TextRelation.contains, true, false, false⟩,
    ⟨"starts-with", TextRelation.startsWith, true, true, false⟩,
    ⟨"ends-with", TextRelation.endsWith, true, false, true⟩]

theorem Search.resolve_eq {search : Search} (h : search ∈ searches) {count : Nat}
    (hcount : count = 2 ∨ count = 3) :
    Registry.standard.resolve search.name count =
      .ok (some (ofRelation search.ignoresCase search.relation)) := by
  simp only [searches, List.mem_cons, List.not_mem_nil, or_false] at h
  rcases h with rfl | rfl | rfl | rfl <;> rcases hcount with rfl | rfl <;> rfl

/-! ## Flags -/

/-- Whether case is ignored in a call: as the third value says if there is one, which has to have a
conversion to a truth value, else by default. -/
def flag? (default : Bool) : Option Value → Option Bool
  | none => some default
  | some v => (v.convert? .bool).bind Value.asBool?

/-- The text of a value as it is compared. -/
def compared (ignoresCase : Bool) (v : Value) : List Char :=
  if ignoresCase then Text.lower v.text.toList else v.text.toList

/-- Only a third value without a conversion is no flag. -/
theorem exists_flag?_or (default : Bool) (third : Option Value) :
    (∃ ignoresCase, flag? default third = some ignoresCase) ∨
      ∃ v, third = some v ∧ v.convert? .bool = none := by
  cases third with
  | none => exact .inl ⟨default, rfl⟩
  | some v =>
    cases hv : v.convert? .bool with
    | none => exact .inr ⟨v, rfl, hv⟩
    | some w =>
      have hkind : w.kind = .bool := Value.kind_of_convert? hv
      cases w with
      | bool b => exact .inl ⟨b, by rw [flag?, hv]; rfl⟩
      | _ => cases hkind

/-! ## Calls -/

variable {event : Event} {a b : Value} {third : Option Value}

theorem holds_eq_compared (relation : TextRelation) (ignoresCase : Bool) (a b : Value) :
    relation.holds ignoresCase a.text.toList b.text.toList =
      relation (compared ignoresCase a) (compared ignoresCase b) := by
  cases ignoresCase <;> rfl

theorem call_of_flag? {default ignoresCase : Bool} (h : flag? default third = some ignoresCase)
    (relation : TextRelation) :
    (ofRelation default relation).call event (a :: b :: third.toList) =
      .ok (.bool (relation (compared ignoresCase a) (compared ignoresCase b))) := by
  rw [← holds_eq_compared relation]
  cases third with
  | none =>
    obtain rfl : default = ignoresCase := Option.some.inj h
    rfl
  | some v =>
    have hflag : v.flag = .ok ignoresCase := by
      rw [Value.flag, show (v.convert? .bool).bind Value.asBool? = _ from h]
    exact congrArg (Except.map _) hflag

theorem call_of_no_flag {v : Value} (h : v.convert? .bool = none) (default : Bool)
    (relation : TextRelation) :
    (ofRelation default relation).call event [a, b, v] = .error (.notAFlag v.text) := by
  have hflag : v.flag = .error (.notAFlag v.text) := by rw [Value.flag, h]; rfl
  exact congrArg (Except.map _) hflag

/-- A call of a standard method by its name ends with an answer. -/
def Answers (name : String) (event : Event) (arguments : List Value)
    (answer : Except MethodError Value) : Prop :=
  ∃ method, Registry.standard.resolve name arguments.length = .ok (some method) ∧
    method.call event arguments = answer

theorem Search.answers_iff {search : Search} (h : search ∈ searches)
    {answer : Except MethodError Value} :
    Answers search.name event (a :: b :: third.toList) answer ↔
      (ofRelation search.ignoresCase search.relation).call event (a :: b :: third.toList) =
        answer := by
  have hcount : (a :: b :: third.toList).length = 2 ∨ (a :: b :: third.toList).length = 3 := by
    cases third <;> simp
  rw [Answers, Search.resolve_eq h hcount]
  simp

/-- The call answers that the second text is found. -/
def IsFound (name : String) (event : Event) (a b : Value) (third : Option Value) : Prop :=
  Answers name event (a :: b :: third.toList) (.ok (.bool true))

theorem Answers.unique {name : String} {arguments : List Value}
    {answer answer' : Except MethodError Value} (h : Answers name event arguments answer)
    (h' : Answers name event arguments answer') : answer = answer' := by
  obtain ⟨method, hmethod, rfl⟩ := h
  obtain ⟨method', hmethod', rfl⟩ := h'
  rw [hmethod] at hmethod'
  cases hmethod'
  rfl

/-! ## What the methods decide -/

/-- A method of a name decides whether the compared texts of two values are related. It fails only
if the third value is no flag. -/
structure Decides (name : String) (default : Bool) (related : List Char → List Char → Prop)
    (event : Event) (a b : Value) (third : Option Value) : Prop where
  answers : ∀ ignoresCase, flag? default third = some ignoresCase →
    ∃ found : Bool, Answers name event (a :: b :: third.toList) (.ok (.bool found)) ∧
      (found = true ↔ related (compared ignoresCase a) (compared ignoresCase b))
  fails_iff : ∀ error, Answers name event (a :: b :: third.toList) (.error error) ↔
    ∃ v, third = some v ∧ v.convert? .bool = none ∧ error = .notAFlag v.text

/-- A search decides what its relation is true of. -/
theorem Search.decides {search : Search} (h : search ∈ searches)
    {related : List Char → List Char → Prop}
    (hrelated : ∀ {text word}, search.relation text word = true ↔ related text word)
    (event : Event) (a b : Value) (third : Option Value) :
    Decides search.name search.ignoresCase related event a b third where
  answers ignoresCase hflag :=
    ⟨_, (Search.answers_iff h).2 (call_of_flag? hflag search.relation), hrelated⟩
  fails_iff error := by
    rw [Search.answers_iff h]
    constructor
    · intro hfails
      rcases exists_flag?_or search.ignoresCase third with ⟨ignoresCase, hflag⟩ | ⟨v, rfl, hv⟩
      · rw [call_of_flag? hflag] at hfails
        cases hfails
      · have herror := (call_of_no_flag hv search.ignoresCase search.relation).symm.trans hfails
        exact ⟨v, rfl, hv, (Except.error.inj herror).symm⟩
    · rintro ⟨v, rfl, hv, rfl⟩
      exact call_of_no_flag hv search.ignoresCase search.relation

namespace Decides

variable {name name' : String} {default default' ignoresCase : Bool}
  {related related' : List Char → List Char → Prop} {third' : Option Value}

theorem isFound_iff (h : Decides name default related event a b third)
    (hflag : flag? default third = some ignoresCase) :
    IsFound name event a b third ↔
      related (compared ignoresCase a) (compared ignoresCase b) := by
  obtain ⟨found, hanswer, hfound⟩ := h.answers ignoresCase hflag
  rw [← hfound]
  constructor
  · intro htrue
    exact Value.bool.inj (Except.ok.inj (hanswer.unique htrue))
  · rintro rfl
    exact hanswer

/-- Under one flag the answers follow from each other as the questions do. -/
theorem isFound_of_imp (h : Decides name default related event a b third)
    (h' : Decides name' default' related' event a b third')
    (hflag : flag? default third = some ignoresCase)
    (hflag' : flag? default' third' = some ignoresCase)
    (himp : ∀ {text word}, related text word → related' text word)
    (hfound : IsFound name event a b third) : IsFound name' event a b third' :=
  (h'.isFound_iff hflag').2 (himp ((h.isFound_iff hflag).1 hfound))

end Decides

section

variable (event : Event) (a b : Value) (third : Option Value)

theorem decides_strequals :
    Decides "strequals" false (fun text word => text = word) event a b third := by
  have hsearch : ⟨"strequals", TextRelation.equal, false, true, true⟩ ∈ searches := by
    simp [searches]
  exact Search.decides hsearch TextRelation.equal_iff event a b third

theorem decides_startsWith :
    Decides "starts-with" true (fun text word => ∃ after, text = word ++ after)
      event a b third := by
  have hsearch : ⟨"starts-with", TextRelation.startsWith, true, true, false⟩ ∈ searches := by
    simp [searches]
  exact Search.decides hsearch TextRelation.startsWith_iff event a b third

theorem decides_endsWith :
    Decides "ends-with" true (fun text word => ∃ before, text = before ++ word)
      event a b third := by
  have hsearch : ⟨"ends-with", TextRelation.endsWith, true, false, true⟩ ∈ searches := by
    simp [searches]
  exact Search.decides hsearch TextRelation.endsWith_iff event a b third

theorem decides_contains :
    Decides "contains" true (fun text word => ∃ before after, text = before ++ word ++ after)
      event a b third := by
  have hsearch : ⟨"contains", TextRelation.contains, true, false, false⟩ ∈ searches := by
    simp [searches]
  exact Search.decides hsearch TextRelation.contains_iff event a b third

end

/-- **What the text methods decide.** All answer for every two values, unless there is a third one
that is no flag. By the texts as they are compared under the flag, the first one is the second one,
or the second one with something after it, before it or around it. Under one flag each of these
implies the next ones. -/
theorem searches_decide (event : Event) (a b : Value) :
    (∀ third,
      Decides "strequals" false (fun text word => text = word) event a b third ∧
      Decides "starts-with" true (fun text word => ∃ after, text = word ++ after)
        event a b third ∧
      Decides "ends-with" true (fun text word => ∃ before, text = before ++ word)
        event a b third ∧
      Decides "contains" true (fun text word => ∃ before after, text = before ++ word ++ after)
        event a b third) ∧
    ∀ {ignoresCase : Bool} {all edge any : Option Value},
      flag? false all = some ignoresCase → flag? true edge = some ignoresCase →
      flag? true any = some ignoresCase →
        (IsFound "strequals" event a b all →
          IsFound "starts-with" event a b edge ∧ IsFound "ends-with" event a b edge) ∧
        (IsFound "starts-with" event a b edge ∨ IsFound "ends-with" event a b edge →
          IsFound "contains" event a b any) := by
  refine ⟨fun third => ⟨decides_strequals event a b third, decides_startsWith event a b third,
    decides_endsWith event a b third, decides_contains event a b third⟩, ?_⟩
  intro ignoresCase all edge any hall hedge hany
  have hequal := decides_strequals event a b all
  have hstart := decides_startsWith event a b edge
  have hend := decides_endsWith event a b edge
  have hinside := decides_contains event a b any
  refine ⟨fun hfound => ⟨?_, ?_⟩, ?_⟩
  · exact hequal.isFound_of_imp hstart hall hedge (fun h => ⟨[], by simp [h]⟩) hfound
  · exact hequal.isFound_of_imp hend hall hedge (fun h => ⟨[], h⟩) hfound
  · rintro (hfound | hfound)
    · refine hstart.isFound_of_imp hinside hedge hany ?_ hfound
      rintro text word ⟨after, rfl⟩
      exact ⟨[], after, rfl⟩
    · refine hend.isFound_of_imp hinside hedge hany ?_ hfound
      rintro text word ⟨before, rfl⟩
      exact ⟨before, [], by simp⟩

/-- A warning of the logger `backup`. -/
def lowSpace : Event := .plain .warn "backup" "Low space" ⟨⟨2023, 11, 5, by decide⟩, .midnight⟩

/-- Texts that differ in case are found in each other when case is ignored, as only `strequals` has
to be told. -/
theorem searches_decide_lowSpace :
    IsFound "strequals" lowSpace (.string "Low space") (.string "LOW SPACE") (some (.int 1)) ∧
      IsFound "starts-with" lowSpace (.string "Low space") (.string "LOW SPACE") none ∧
      IsFound "contains" lowSpace (.string "Low space") (.string "LOW SPACE") none := by
  obtain ⟨hdecides, hordered⟩ :=
    searches_decide lowSpace (.string "Low space") (.string "LOW SPACE")
  have hflag : flag? false (some (.int 1)) = some true := by decide
  have hequal :
      IsFound "strequals" lowSpace (.string "Low space") (.string "LOW SPACE") (some (.int 1)) :=
    ((hdecides _).1.isFound_iff hflag).2 (by decide +kernel)
  have hdefault : flag? true none = some true := rfl
  obtain ⟨hstarts, hcontains⟩ := hordered hflag hdefault hdefault
  have hstart := (hstarts hequal).1
  exact ⟨hequal, hstart, hcontains (.inl hstart)⟩

end Method

end LogFilter
