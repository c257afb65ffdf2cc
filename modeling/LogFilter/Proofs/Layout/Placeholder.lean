import LogFilter.Proofs.Layout.Template

/-!
# What placeholders stand for

Between the braces of a placeholder there is the name of a renderer, in any ASCII case, and after a
colon there may be options. `Calls` says how the name and the options are written and `HasOption`
how a value is given; two tables say what the renderers stand for. The function `placeholder` takes
exactly what stands for something, and makes a part of it that is rendered as this
(`standsFor_iff`).
-/

namespace LogFilter.Template

open Text

variable {body nameText : List Char} {options : Option (List Char)}

/-! ## Names and options -/

/-- The name of a renderer is all up to the first colon, and what follows are its options; blanks at
the ends of both do not count. -/
inductive Reads : List Char → List Char → Option (List Char) → Prop
  | alone {body : List Char} (h : ':' ∉ body) : Reads body (trim body) none
  | withOptions {name options : List Char} (h : ':' ∉ name) :
      Reads (name ++ ':' :: options) (trim name) (some (trim options))

/-- A placeholder calls a renderer by its name in any ASCII case. -/
def Calls (renderer : String) (body : List Char) (options : Option (List Char)) : Prop :=
  ∃ nameText, Reads body nameText options ∧
    sameIgnoringAsciiCase nameText renderer.toList = true

/-- The value of an option, alone or after the name of the option and an equals sign. -/
inductive HasOption (key : String) : List Char → String → Prop
  | bare {s : List Char} (hne : s ≠ []) (h : '=' ∉ s) : HasOption key s (String.ofList s)
  | named {name value : List Char} (h : '=' ∉ name)
      (hkey : sameIgnoringAsciiCase (trim name) key.toList = true) :
      HasOption key (name ++ '=' :: value) (String.ofList (trim value))

/-- The renderers that need no option, and what they stand for. -/
def plainRenderers : List (String × (Event → String)) :=
  [("level", fun event => event.level.name),
    ("logger", fun event => event.logger),
    ("message", fun event => event.message),
    ("exception", fun event => (event.exception.map ExceptionInfo.text).getD "")]

/-- The renderers with an option, the name of the option, and what they stand for with a value of
it. What an event does not have is empty. -/
def optionRenderers : List (String × String × (String → Event → String)) :=
  [("event-properties", "item", fun name event => (event.propertyText? name).getD ""),
    ("event-property", "item", fun name event => (event.propertyText? name).getD ""),
    ("scopeproperty", "item", fun name event => (event.scopePropertyText? name).getD ""),
    ("mdlc", "item", fun name event => (event.scopePropertyText? name).getD ""),
    ("literal", "text", fun text _ => text)]

/-- A placeholder stands for a text that depends on the event. -/
inductive StandsFor (body : List Char) : (Event → String) → Prop
  | plain {renderer : String} {value : Event → String} {options : Option (List Char)}
      (hr : (renderer, value) ∈ plainRenderers) (h : Calls renderer body options) :
      StandsFor body value
  | option {renderer key text : String} {value : String → Event → String} {options : List Char}
      (hr : (renderer, key, value) ∈ optionRenderers) (h : Calls renderer body (some options))
      (ho : HasOption key options text) : StandsFor body (value text)

/-- What is between braces always has a name, possibly the empty one. -/
theorem exists_reads (body : List Char) : ∃ nameText options, Reads body nameText options := by
  cases hb : breakOn [':'] body with
  | none => exact ⟨_, _, .alone (occursIn_singleton_iff.1 (breakOn_eq_none_iff.1 hb))⟩
  | some p =>
    obtain ⟨name, options⟩ := p
    have hname := occursIn_singleton_iff.1 (occursIn_of_breakOn (by simp) hb)
    rw [eq_of_breakOn hb, List.append_assoc]
    exact ⟨_, _, .withOptions hname⟩

theorem requiredOption_eq_ok_iff {renderer key value : String} :
    requiredOption renderer options key = .ok value ↔
      ∃ s, options = some s ∧ HasOption key s value := by
  constructor
  · intro h
    unfold requiredOption at h
    cases options with
    | none => exact absurd h (by simp)
    | some s =>
      refine ⟨s, rfl, ?_⟩
      simp only at h
      split at h
      · exact absurd h (by simp)
      next hne =>
      split at h
      · next hb =>
        obtain rfl := Except.ok.inj h
        exact .bare (by simpa using hne) (occursIn_singleton_iff.1 (breakOn_eq_none_iff.1 hb))
      · next name rest hb =>
        split at h
        · next hkey =>
          obtain rfl := Except.ok.inj h
          have hname := occursIn_singleton_iff.1 (occursIn_of_breakOn (by simp) hb)
          rw [eq_of_breakOn hb, List.append_assoc]
          exact .named hname hkey
        · exact absurd h (by simp)
  · rintro ⟨s, rfl, h⟩
    cases h with
    | bare hne h =>
      have hb : breakOn ['='] s = none := breakOn_eq_none_iff.2 (occursIn_singleton_iff.2 h)
      simp [requiredOption, hne, hb]
    | named h hkey => simp [requiredOption, breakOn_singleton h, hkey]

/-! ## Renderers -/

/-- The names of renderers, in lower case. -/
def rendererNames : List String :=
  plainRenderers.map Prod.fst ++ optionRenderers.map Prod.fst

theorem calls_iff {renderer : String} (hr : renderer ∈ rendererNames) :
    Calls renderer body options ↔
      ∃ nameText, Reads body nameText options ∧
        String.ofList (nameText.map Char.toLower) = renderer := by
  have hlower : ∀ name ∈ rendererNames, name.toList.map Char.toLower = name.toList := by
    decide +kernel
  have hsame (nameText : List Char) :
      sameIgnoringAsciiCase nameText renderer.toList = true ↔
        String.ofList (nameText.map Char.toLower) = renderer := by
    rw [sameIgnoringAsciiCase, beq_iff_eq, hlower renderer hr, ← String.toList_inj,
      String.toList_ofList]
  simp only [Calls, hsame]

/-- The name decides what is made of the options. -/
theorem placeholder_of_reads (h : Reads body nameText options) :
    placeholder body =
      let name := String.ofList nameText
      match String.ofList (nameText.map Char.toLower) with
      | "level" => .ok .level
      | "logger" => .ok .logger
      | "message" => .ok .message
      | "exception" => .ok .exception
      | "event-properties" | "event-property" =>
        (requiredOption name options "item").map Part.property
      | "scopeproperty" | "mdlc" => (requiredOption name options "item").map Part.scopeProperty
      | "literal" => (requiredOption name options "text").map Part.literal
      | _ => .error (.unknownRenderer name) := by
  unfold placeholder
  cases h with
  | alone h =>
    rewrite [breakOn_eq_none_iff.2 (occursIn_singleton_iff.2 h)]
    rfl
  | withOptions h =>
    rewrite [breakOn_singleton h]
    rfl

theorem placeholder_of_plain {renderer : String} {value : Event → String}
    (hr : (renderer, value) ∈ plainRenderers) (h : Calls renderer body options) :
    ∃ part, placeholder body = .ok part ∧ value = fun event => part.render event := by
  have hmem : renderer ∈ rendererNames := List.mem_append_left _ (List.mem_map_of_mem hr)
  obtain ⟨nameText, hreads, hname⟩ := (calls_iff hmem).1 h
  rw [placeholder_of_reads hreads, hname]
  simp only [plainRenderers, List.mem_cons, Prod.mk.injEq, List.not_mem_nil, or_false] at hr
  rcases hr with ⟨rfl, rfl⟩ | ⟨rfl, rfl⟩ | ⟨rfl, rfl⟩ | ⟨rfl, rfl⟩ <;> exact ⟨_, rfl, rfl⟩

theorem placeholder_of_option {renderer key text : String} {value : String → Event → String}
    {options : List Char} (hr : (renderer, key, value) ∈ optionRenderers)
    (h : Calls renderer body (some options)) (ho : HasOption key options text) :
    ∃ part, placeholder body = .ok part ∧ value text = fun event => part.render event := by
  have hmem : renderer ∈ rendererNames := List.mem_append_right _ (List.mem_map_of_mem hr)
  obtain ⟨nameText, hreads, hname⟩ := (calls_iff hmem).1 h
  have hoption (name : String) : requiredOption name (some options) key = .ok text :=
    requiredOption_eq_ok_iff.2 ⟨options, rfl, ho⟩
  rw [placeholder_of_reads hreads, hname]
  simp only [optionRenderers, List.mem_cons, Prod.mk.injEq, List.not_mem_nil, or_false] at hr
  rcases hr with ⟨rfl, rfl, rfl⟩ | ⟨rfl, rfl, rfl⟩ | ⟨rfl, rfl, rfl⟩ | ⟨rfl, rfl, rfl⟩ |
      ⟨rfl, rfl, rfl⟩ <;>
    · simp only [hoption]
      exact ⟨_, rfl, rfl⟩

theorem standsFor_of_placeholder {part : Part} (h : placeholder body = .ok part) :
    StandsFor body fun event => part.render event := by
  obtain ⟨nameText, options, hreads⟩ := exists_reads body
  rw [placeholder_of_reads hreads] at h
  have plain {i : Nat} {renderer : String} {value : Event → String}
      (hr : plainRenderers[i]? = some (renderer, value))
      (hname : String.ofList (nameText.map Char.toLower) = renderer) : StandsFor body value := by
    have hmem := List.mem_of_getElem? hr
    refine .plain hmem ((calls_iff ?_).2 ⟨nameText, hreads, hname⟩)
    exact List.mem_append_left _ (List.mem_map_of_mem hmem)
  have option {i : Nat} {renderer key : String} {value : String → Event → String}
      {make : String → Part} (hr : optionRenderers[i]? = some (renderer, key, value))
      (hname : String.ofList (nameText.map Char.toLower) = renderer)
      (hmake : ∀ text, value text = fun event => (make text).render event)
      (h : (requiredOption (String.ofList nameText) options key).map make = .ok part) :
      StandsFor body fun event => part.render event := by
    have hmem := List.mem_of_getElem? hr
    obtain ⟨text, htext, rfl⟩ := Except.map_eq_ok.1 h
    obtain ⟨s, rfl, ho⟩ := requiredOption_eq_ok_iff.1 htext
    rw [← hmake]
    refine .option hmem ((calls_iff ?_).2 ⟨nameText, hreads, hname⟩) ho
    exact List.mem_append_right _ (List.mem_map_of_mem hmem)
  -- the function compares with one name after the other, in the order of the tables
  simp only at h
  split at h
  case h_1 hname =>
    obtain rfl := Except.ok.inj h
    exact plain (i := 0) rfl hname
  case h_2 hname =>
    obtain rfl := Except.ok.inj h
    exact plain (i := 1) rfl hname
  case h_3 hname =>
    obtain rfl := Except.ok.inj h
    exact plain (i := 2) rfl hname
  case h_4 hname =>
    obtain rfl := Except.ok.inj h
    exact plain (i := 3) rfl hname
  case h_5 hname => exact option (i := 0) rfl hname (fun _ => rfl) h
  case h_6 hname => exact option (i := 1) rfl hname (fun _ => rfl) h
  case h_7 hname => exact option (i := 2) rfl hname (fun _ => rfl) h
  case h_8 hname => exact option (i := 3) rfl hname (fun _ => rfl) h
  case h_9 hname => exact option (i := 4) rfl hname (fun _ => rfl) h
  case h_10 => exact absurd h (by simp)

/-- **What a placeholder stands for** is what its part is rendered as, and what stands for nothing
is refused. -/
theorem standsFor_iff {value : Event → String} :
    StandsFor body value ↔
      ∃ part, placeholder body = .ok part ∧ value = fun event => part.render event := by
  constructor
  · intro h
    cases h with
    | plain hr h => exact placeholder_of_plain hr h
    | option hr h ho => exact placeholder_of_option hr h ho
  · rintro ⟨part, h, rfl⟩
    exact standsFor_of_placeholder h

/-- A placeholder stands for one text at most. -/
theorem StandsFor.unique {value value' : Event → String} (h : StandsFor body value)
    (h' : StandsFor body value') : value = value' := by
  obtain ⟨part, hpart, rfl⟩ := standsFor_iff.1 h
  obtain ⟨part', hpart', rfl⟩ := standsFor_iff.1 h'
  obtain rfl := Except.ok.inj (hpart.symm.trans hpart')
  rfl

/-- Only the renderer of literal text makes a part that is the same for all events. -/
theorem fixedText?_isSome_iff {part : Part} (h : placeholder body = .ok part) :
    part.fixedText?.isSome = true ↔ ∃ options, Calls "literal" body options := by
  have hmem : "literal" ∈ rendererNames := by decide
  constructor
  · intro hfixed
    obtain ⟨nameText, options, hreads⟩ := exists_reads body
    rw [placeholder_of_reads hreads] at h
    simp only at h
    split at h
    case h_9 hname => exact ⟨options, (calls_iff hmem).2 ⟨nameText, hreads, hname⟩⟩
    case h_10 => exact absurd h (by simp)
    case h_1 | h_2 | h_3 | h_4 =>
      obtain rfl := Except.ok.inj h
      exact absurd hfixed (by decide)
    case h_5 | h_6 | h_7 | h_8 =>
      obtain ⟨name, -, rfl⟩ := Except.map_eq_ok.1 h
      exact absurd hfixed (by simp [Part.fixedText?])
  · rintro ⟨options, hcalls⟩
    obtain ⟨nameText, hreads, hname⟩ := (calls_iff hmem).1 hcalls
    rw [placeholder_of_reads hreads, hname] at h
    obtain ⟨text, -, rfl⟩ := Except.map_eq_ok.1 h
    rfl

end LogFilter.Template
