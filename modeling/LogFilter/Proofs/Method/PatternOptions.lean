import LogFilter.Proofs.Method.Searches
import LogFilter.Proofs.Text.Runs

/-!
# Options of `regex-matches`

The third argument of `regex-matches` lists names of options. Which names a text lists is said here
without regard to how they are found (`Pattern.Lists`): they stand apart by commas, spaces and bars,
and other blanks around them do not count. Every text lists some names.

The options are a set: the flags of a pattern depend on which names are listed, not on their order,
their number, their case or what stands between them (`Pattern.flagsOf_of_known`). A name of no
option is reported before the pattern is looked at. So the method answers the same for all texts
that list the same options, and fails for all texts that list anything else
(`Method.options_are_a_set`).
-/

namespace LogFilter

open Text

namespace Pattern

/-! ## Names in a text -/

/-- A name as it can stand among options: it has characters, of which none separates options, and
there is no blank at its ends. -/
structure IsName (name : List Char) : Prop where
  notEmpty : name ≠ []
  whole : ∀ c ∈ name, separatesOptions c = false
  starts : Stops isBlank name
  ends : Stops isBlank name.reverse

/-- Blanks that do not separate options. -/
def IsPadding (s : List Char) : Prop := ∀ c ∈ s, isBlank c = true ∧ separatesOptions c = false

/-- A text lists names, in their order. -/
inductive Lists : List Char → List (List Char) → Prop
  | nothing {blanks : List Char} (h : IsPadding blanks) : Lists blanks []
  | one {before name after : List Char} (hb : IsPadding before) (hname : IsName name)
      (ha : IsPadding after) : Lists (before ++ (name ++ after)) [name]
  | apart {s s' : List Char} {c : Char} {names names' : List (List Char)} (h : Lists s names)
      (hc : separatesOptions c = true) (h' : Lists s' names') :
      Lists (s ++ c :: s') (names ++ names')

/-- A text without blanks and separators lists itself. -/
theorem lists_word {name : List Char} (hne : name ≠ [])
    (h : ∀ c ∈ name, isBlank c = false ∧ separatesOptions c = false) : Lists name [name] := by
  have hname : IsName name := by
    refine ⟨hne, fun c hc => (h c hc).2, fun c hc => ?_, fun c hc => ?_⟩
    · exact (h c (List.mem_of_mem_head? hc)).1
    · exact (h c (List.mem_reverse.1 (List.mem_of_mem_head? hc))).1
  have hone := Lists.one (List.forall_mem_nil _) hname (List.forall_mem_nil _)
  rwa [List.nil_append, List.append_nil] at hone

/-- A name in lower case, which only ASCII letters have here. -/
def lowerName (name : List Char) : String := String.ofList (name.map Char.toLower)

/-- The words of a text that is not cut. -/
theorem optionWords_of_forall {s : List Char} (h : ∀ c ∈ s, separatesOptions c = false) :
    optionWords s = if trim s = [] then [] else [lowerName (trim s)] := by
  rw [optionWords, splitWhere_of_forall h]
  by_cases htrim : trim s = []
  · simp [htrim]
  · simp [htrim, lowerName]

theorem optionWords_append {c : Char} (hc : separatesOptions c = true) (s s' : List Char) :
    optionWords (s ++ c :: s') = optionWords s ++ optionWords s' := by
  rw [optionWords, splitWhere_append hc, List.map_append, List.filter_append, List.map_append]
  rfl

/-- **The words of a text are the names that it lists**, in lower case. -/
theorem Lists.optionWords_eq {s : List Char} {names : List (List Char)} (h : Lists s names) :
    optionWords s = names.map lowerName := by
  induction h with
  | nothing h =>
    have htrim : trim _ = [] := congrArg trimEnd (trimStart_blanks fun c hc => (h c hc).1)
    rw [optionWords_of_forall fun c hc => (h c hc).2, if_pos htrim]
    rfl
  | @one before name after hb hname ha =>
    have htrim : trim (before ++ (name ++ after)) = name :=
      trim_append (fun c hc => (hb c hc).1) hname.notEmpty hname.starts hname.ends
        fun c hc => (ha c hc).1
    have hwhole : ∀ c ∈ before ++ (name ++ after), separatesOptions c = false := by
      intro c hc
      rcases List.mem_append.1 hc with hc | hc
      · exact (hb c hc).2
      rcases List.mem_append.1 hc with hc | hc
      · exact hname.whole c hc
      · exact (ha c hc).2
    rw [optionWords_of_forall hwhole, htrim, if_neg hname.notEmpty]
    rfl
  | apart _ hc _ ih ih' => rw [optionWords_append hc, ih, ih', List.map_append]

theorem exists_lists_of_forall {s : List Char} (h : ∀ c ∈ s, separatesOptions c = false) :
    ∃ names, Lists s names := by
  obtain ⟨before, after, hs, hb, ha, hstart, hend⟩ := exists_trim s
  have hpart : ∀ c, c ∈ before ∨ c ∈ trim s ∨ c ∈ after → separatesOptions c = false := by
    intro c hc
    refine h c ?_
    rw [hs, List.mem_append, List.mem_append]
    exact hc
  have hbefore : IsPadding before := fun c hc => ⟨hb c hc, hpart c (.inl hc)⟩
  have hafter : IsPadding after := fun c hc => ⟨ha c hc, hpart c (.inr (.inr hc))⟩
  by_cases hne : trim s = []
  · rw [hne, List.nil_append] at hs
    have hpadding : IsPadding s := by
      intro c hc
      rw [hs] at hc
      rcases List.mem_append.1 hc with hc | hc
      · exact hbefore c hc
      · exact hafter c hc
    exact ⟨[], .nothing hpadding⟩
  · have hname : IsName (trim s) := ⟨hne, fun c hc => hpart c (.inr (.inl hc)), hstart, hend⟩
    refine ⟨[trim s], ?_⟩
    have hone := Lists.one hbefore hname hafter
    rwa [← hs] at hone

/-- **Every text lists some names.** -/
theorem exists_lists (s : List Char) : ∃ names, Lists s names := by
  -- the part before the first separator is not cut, and what comes after it is shorter
  induction hn : s.length using Nat.strongRecOn generalizing s with
  | ind n ih =>
    subst hn
    have hsplit := List.takeWhile_append_dropWhile (p := fun c => !separatesOptions c) (l := s)
    have hfirst : ∀ c ∈ s.takeWhile fun c => !separatesOptions c, separatesOptions c = false := by
      intro c hc
      simpa using forall_mem_takeWhile c hc
    obtain ⟨names, hnames⟩ := exists_lists_of_forall hfirst
    cases hrest : s.dropWhile fun c => !separatesOptions c with
    | nil =>
      rw [hrest, List.append_nil] at hsplit
      exact ⟨names, hsplit ▸ hnames⟩
    | cons c rest =>
      have hstops := stops_dropWhile (fun c => !separatesOptions c) s c (by rw [hrest]; rfl)
      have hc : separatesOptions c = true := by simpa using hstops
      rw [hrest] at hsplit
      have hshorter : rest.length < s.length := by
        have hlength := congrArg List.length hsplit
        rw [List.length_append, List.length_cons] at hlength
        omega
      obtain ⟨names', hnames'⟩ := ih rest.length hshorter rest rfl
      exact ⟨names ++ names', hsplit ▸ hnames.apart hc hnames'⟩

/-! ## Names of options -/

/-- The names of options. -/
def optionNames : List String :=
  ["none", "ignorecase", "multiline", "singleline", "ignorepatternwhitespace"]

/-- A name is that of an option, in any ASCII case. -/
def Spells (name : List Char) (option : String) : Prop :=
  sameIgnoringAsciiCase name option.toList = true

/-- A name is that of some option. -/
def IsOption (name : List Char) : Prop := ∃ option ∈ optionNames, Spells name option

theorem spells_iff {name : List Char} {option : String} (h : option ∈ optionNames) :
    Spells name option ↔ lowerName name = option := by
  have hall : ∀ o ∈ optionNames, o.toList.map Char.toLower = o.toList := by decide +kernel
  rw [Spells, sameIgnoringAsciiCase, beq_iff_eq, hall option h, lowerName]
  constructor
  · intro heq
    rw [heq, String.ofList_toList]
  · intro heq
    rw [← heq, String.toList_ofList]

theorem isOption_iff {name : List Char} : IsOption name ↔ lowerName name ∈ optionNames := by
  constructor
  · rintro ⟨option, hoption, hspells⟩
    rwa [(spells_iff hoption).1 hspells]
  · intro h
    exact ⟨lowerName name, h, (spells_iff h).2 rfl⟩

theorem exists_spells_iff {names : List (List Char)} {option : String} (h : option ∈ optionNames) :
    (∃ name ∈ names, Spells name option) ↔ option ∈ names.map lowerName := by
  rw [List.mem_map]
  exact exists_congr fun name => and_congr_right fun _ => spells_iff h

/-! ## Flags -/

/-- The flags with those set that some words name. -/
def Flags.including (flags : Flags) (words : List String) : Flags :=
  { flags with
    ignoreCase := flags.ignoreCase || words.contains "ignorecase"
    multiLine := flags.multiLine || words.contains "multiline"
    dotAll := flags.dotAll || words.contains "singleline"
    verbose := flags.verbose || words.contains "ignorepatternwhitespace" }

/-- An option sets its flag, if it has one, and nothing else. -/
theorem Flags.withOption?_eq_some {flags : Flags} {word : String} (h : word ∈ optionNames) :
    flags.withOption? word = some (flags.including [word]) := by
  simp only [optionNames, List.mem_cons, List.not_mem_nil, or_false] at h
  rcases h with rfl | rfl | rfl | rfl | rfl <;> simp [withOption?, including]

theorem Flags.withOption?_eq_none {flags : Flags} {word : String} (h : word ∉ optionNames) :
    flags.withOption? word = none := by
  unfold withOption?
  split
  case h_6 => rfl
  all_goals exact absurd (by decide) h

theorem Flags.including_including (flags : Flags) (words words' : List String) :
    (flags.including words).including words' = flags.including (words ++ words') := by
  simp [including, Bool.or_assoc]

/-- **The flags that options set are those that they name.** -/
theorem flagsOf_of_known {flags : Flags} {words : List String} (h : ∀ w ∈ words, w ∈ optionNames) :
    flagsOf flags words = .ok (flags.including words) := by
  induction words generalizing flags with
  | nil => simp [flagsOf, Flags.including]
  | cons word words ih =>
    obtain ⟨hword, hwords⟩ := List.forall_mem_cons.1 h
    simp only [flagsOf, Flags.withOption?_eq_some hword]
    rw [ih hwords, Flags.including_including]
    rfl

/-- The first word that is no option is reported. -/
theorem flagsOf_of_unknown {flags : Flags} {before after : List String} {word : String}
    (hbefore : ∀ w ∈ before, w ∈ optionNames) (hword : word ∉ optionNames) :
    flagsOf flags (before ++ word :: after) = .error word := by
  induction before generalizing flags with
  | nil =>
    rw [List.nil_append]
    simp only [flagsOf, Flags.withOption?_eq_none hword]
  | cons first before ih =>
    obtain ⟨hfirst, hrest⟩ := List.forall_mem_cons.1 hbefore
    rw [List.cons_append]
    simp only [flagsOf, Flags.withOption?_eq_some hfirst]
    exact ih hrest

/-- Words that name the same options but for `none` set the same flags. -/
theorem Flags.including_congr (flags : Flags) {words words' : List String}
    (h : ∀ option ∈ optionNames, option ≠ "none" → (option ∈ words ↔ option ∈ words')) :
    flags.including words = flags.including words' := by
  have hsame : ∀ option ∈ optionNames, option ≠ "none" →
      words.contains option = words'.contains option := by
    intro option hoption hne
    rw [Bool.eq_iff_iff, List.contains_iff_mem, List.contains_iff_mem]
    exact h option hoption hne
  rw [including, hsame "ignorecase" (by decide) (by decide),
    hsame "multiline" (by decide) (by decide), hsame "singleline" (by decide) (by decide),
    hsame "ignorepatternwhitespace" (by decide) (by decide)]
  rfl

/-- Two lists of names have the same options. What `none` names is no option. -/
def SameOptions (names names' : List (List Char)) : Prop :=
  ∀ option ∈ optionNames, option ≠ "none" →
    ((∃ name ∈ names, Spells name option) ↔ ∃ name ∈ names', Spells name option)

/-- Texts that list the same options set the same flags. -/
theorem readOptions_congr {s s' : List Char} {names names' : List (List Char)} (h : Lists s names)
    (h' : Lists s' names') (hnames : ∀ name ∈ names, IsOption name)
    (hnames' : ∀ name ∈ names', IsOption name) (hsame : SameOptions names names') :
    readOptions s = readOptions s' := by
  have hknown : ∀ {l : List (List Char)}, (∀ name ∈ l, IsOption name) →
      ∀ w ∈ l.map lowerName, w ∈ optionNames := by
    intro l hl w hw
    obtain ⟨name, hname, rfl⟩ := List.mem_map.1 hw
    exact isOption_iff.1 (hl name hname)
  rw [readOptions, readOptions, h.optionWords_eq, h'.optionWords_eq,
    flagsOf_of_known (hknown hnames), flagsOf_of_known (hknown hnames')]
  refine congrArg _ (Flags.including_congr _ fun option hoption hne => ?_)
  rw [← exists_spells_iff hoption, ← exists_spells_iff hoption]
  exact hsame option hoption hne

theorem readOptions_of_unknown {s : List Char} {before after : List (List Char)} {name : List Char}
    (h : Lists s (before ++ name :: after)) (hbefore : ∀ n ∈ before, IsOption n)
    (hname : ¬IsOption name) : readOptions s = .error (lowerName name) := by
  rw [readOptions, h.optionWords_eq, List.map_append, List.map_cons]
  refine flagsOf_of_unknown (fun w hw => ?_) fun hmem => hname (isOption_iff.2 hmem)
  obtain ⟨n, hn, rfl⟩ := List.mem_map.1 hw
  exact isOption_iff.1 (hbefore n hn)

end Pattern

/-! ## Calls -/

namespace Method

open Pattern

variable {event : Event} {a b options : Value} {answer : Except MethodError Value}

theorem answers_patternMatches :
    Answers "regex-matches" event [a, b] answer ↔
      (findPattern a.text b.text "").map Value.bool = answer := by
  have hresolve : Registry.standard.resolve "regex-matches" 2 = .ok (some patternMatches) := rfl
  rw [Answers, List.length_cons, List.length_singleton, hresolve]
  simp [patternMatches, Method.call, Arity.accepts, Arity.bounds]

theorem answers_patternMatches_options :
    Answers "regex-matches" event [a, b, options] answer ↔
      (findPattern a.text b.text options.text).map Value.bool = answer := by
  have hresolve : Registry.standard.resolve "regex-matches" 3 = .ok (some patternMatches) := rfl
  rw [Answers, List.length_cons, List.length_cons, List.length_singleton, hresolve]
  simp [patternMatches, Method.call, Arity.accepts, Arity.bounds]

theorem findPattern_congr {options options' : String}
    (h : readOptions options.toList = readOptions options'.toList) (text pattern : String) :
    findPattern text pattern options = findPattern text pattern options' := by
  rw [findPattern, findPattern, h]

theorem findPattern_of_unknown {options name : String}
    (h : readOptions options.toList = .error name) (text pattern : String) :
    findPattern text pattern options = .error (.unknownOption name) := by
  rw [findPattern, h]

/-- **The options of a pattern are a set.** A call of `regex-matches` has the same answer for all
texts that list the same options, where `none` is no option, and without options it has the one for
a text that lists no option. If a text lists a name of no option, the call fails with the first such
name, whatever the pattern is. -/
theorem options_are_a_set (event : Event) (a b : Value) :
    (∀ (options options' : Value) (names names' : List (List Char)),
      Lists options.text.toList names → Lists options'.text.toList names' →
      (∀ name ∈ names, IsOption name) → (∀ name ∈ names', IsOption name) →
      SameOptions names names' →
        ∃ answer, Answers "regex-matches" event [a, b, options] answer ∧
          Answers "regex-matches" event [a, b, options'] answer) ∧
    (∀ (options : Value) (names : List (List Char)), Lists options.text.toList names →
      (∀ name ∈ names, Spells name "none") →
        ∃ answer, Answers "regex-matches" event [a, b, options] answer ∧
          Answers "regex-matches" event [a, b] answer) ∧
    ∀ (options : Value) (before after : List (List Char)) (name : List Char),
      Lists options.text.toList (before ++ name :: after) → (∀ n ∈ before, IsOption n) →
      ¬IsOption name →
        Answers "regex-matches" event [a, b, options]
          (.error (.unknownOption (lowerName name))) := by
  refine ⟨?_, ?_, ?_⟩
  · intro options options' names names' h h' hnames hnames' hsame
    have hread := readOptions_congr h h' hnames hnames' hsame
    refine ⟨_, answers_patternMatches_options.2 rfl, answers_patternMatches_options.2 ?_⟩
    rw [findPattern_congr hread]
  · intro options names h hnames
    have hnone : Lists "".toList [] := .nothing (List.forall_mem_nil _)
    have hknown : ∀ name ∈ names, IsOption name := fun name hname =>
      ⟨"none", by decide, hnames name hname⟩
    have hsame : SameOptions names [] := by
      intro option hoption hne
      refine iff_of_false ?_ (by simp)
      rintro ⟨name, hname, hspells⟩
      rw [spells_iff hoption] at hspells
      exact hne (hspells.symm.trans ((spells_iff (by decide)).1 (hnames name hname)))
    have hread := readOptions_congr h hnone hknown (List.forall_mem_nil _) hsame
    refine ⟨_, answers_patternMatches_options.2 rfl, answers_patternMatches.2 ?_⟩
    rw [findPattern_congr hread]
  · intro options before after name h hbefore hname
    have hread := readOptions_of_unknown h hbefore hname
    rw [answers_patternMatches_options, findPattern_of_unknown hread]
    rfl

/-- An event of the logger `mail` in the first moment of 2025. -/
def mailEvent : Event := .plain .info "mail" "sent" ⟨⟨2025, 1, 1, by decide⟩, .midnight⟩

/-- `IgnoreCase| Multiline` and `multiline,NONE,ignorecase` are the same options. An opening
parenthesis is no pattern, but with the options `none,Fast|slow` the first unknown name is what is
reported. -/
theorem options_are_a_set_mixed :
    (∃ answer,
      Answers "regex-matches" mailEvent
        [.string "Sent", .string "^s", .string "IgnoreCase| Multiline"] answer ∧
      Answers "regex-matches" mailEvent
        [.string "Sent", .string "^s", .string "multiline,NONE,ignorecase"] answer) ∧
    Answers "regex-matches" mailEvent [.string "Sent", .string "(", .string "none,Fast|slow"]
      (.error (.unknownOption "fast")) := by
  have hbar : separatesOptions '|' = true := by decide
  have hcomma : separatesOptions ',' = true := by decide
  have hspace : separatesOptions ' ' = true := by decide
  have hplain : ["IgnoreCase", "Multiline", "multiline", "NONE", "ignorecase", "none", "Fast",
      "slow"].all fun word =>
        !word.toList.isEmpty && word.toList.all fun c => !isBlank c && !separatesOptions c := by
    decide +kernel
  have hword : ∀ word ∈ ["IgnoreCase", "Multiline", "multiline", "NONE", "ignorecase", "none",
      "Fast", "slow"], Lists word.toList [word.toList] := by
    intro word hword
    have hone := List.all_eq_true.1 hplain word hword
    rw [Bool.and_eq_true, List.all_eq_true] at hone
    exact lists_word (by simpa using hone.1) fun c hc => by simpa using hone.2 c hc
  have hlines : Lists " Multiline".toList ["Multiline".toList] :=
    .apart (.nothing (List.forall_mem_nil _)) hspace (hword "Multiline" (by simp))
  have hnames : Lists "IgnoreCase| Multiline".toList ["IgnoreCase".toList, "Multiline".toList] :=
    (hword "IgnoreCase" (by simp)).apart hbar hlines
  have hnone : Lists "NONE,ignorecase".toList ["NONE".toList, "ignorecase".toList] :=
    (hword "NONE" (by simp)).apart hcomma (hword "ignorecase" (by simp))
  have hnames' : Lists "multiline,NONE,ignorecase".toList
      ["multiline".toList, "NONE".toList, "ignorecase".toList] :=
    (hword "multiline" (by simp)).apart hcomma hnone
  have hunknown : Lists "none,Fast|slow".toList
      (["none".toList] ++ "Fast".toList :: ["slow".toList]) :=
    (hword "none" (by simp)).apart hcomma
      ((hword "Fast" (by simp)).apart hbar (hword "slow" (by simp)))
  refine ⟨?_, ?_⟩
  · refine (options_are_a_set mailEvent _ _).1 _ _ _ _ hnames hnames' ?_ ?_ ?_
    · simp only [isOption_iff]
      decide +kernel
    · simp only [isOption_iff]
      decide +kernel
    · intro option hoption _
      rw [exists_spells_iff hoption, exists_spells_iff hoption]
      revert option
      decide +kernel
  · refine (options_are_a_set mailEvent (.string "Sent") (.string "(")).2.2
      (.string "none,Fast|slow") _ _ _ hunknown ?_ ?_
    · simp only [isOption_iff]
      decide +kernel
    · rw [isOption_iff]
      decide +kernel

end Method

end LogFilter
