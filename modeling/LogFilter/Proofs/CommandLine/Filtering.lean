import LogFilter.CommandLine.Run
import LogFilter.Proofs.CommandLine.Reading
import LogFilter.Proofs.Condition.Synonyms
import LogFilter.Proofs.Event.Lines
import LogFilter.Proofs.Event.RoundTrip
import LogFilter.Proofs.Filter.Decision

/-!
# Filtering with a condition

A run that filters a file by a condition on the command line prints the events for which the
condition is true, in the order of the file, and looks at no other file (`run_filter`). The chain of
such a run has one filter, and its default lets nothing through, so it lets an event through exactly
if the condition is true for it (`Chain.shouldLog_matching`). An event for which the condition has
no value does not end the run: of each there is a warning (`Chain.warnings_matching`).
-/

namespace LogFilter

namespace CommandLine

/-! ## What is printed -/

/-- A JSON line for each event. -/
def jsonLines (events : List Event) : String :=
  String.join (events.map fun event => event.jsonLine ++ "\n")

theorem toList_jsonLines (events : List Event) :
    (jsonLines events).toList = events.flatMap fun event => event.jsonLine.toList ++ ['\n'] := by
  simp [jsonLines, String.toList_join, List.flatMap_map]

/-- What is printed as JSON is again a file of the events, if they were read from one and their
doubles are read back. -/
theorem ofFile_jsonLines {now later : DateTime} {file : File} {events selected : List Event}
    (h : Event.ofFile now file = .ok events) (hselected : selected ⊆ events)
    (hdoubles : ∀ event ∈ selected,
      ∀ x ∈ Json.fieldsDoubles event.properties ++ Json.fieldsDoubles event.scopeProperties,
        Json.ReadsBack x) :
    Event.ofFile later (.ok ⟨(jsonLines selected).toList, false⟩) = .ok selected := by
  rw [toList_jsonLines]
  exact Event.ofFile_written h hselected hdoubles

/-- What is printed of the events of a file for which a condition is true. -/
theorem filteredText_matching (colored json : Bool) (condition : Expr) (events : List Event) :
    filteredText colored json (.matching condition) events =
      let kept := events.filter condition.isTrueFor
      if json then jsonLines kept
      else String.join (kept.map (eventText colored)) ++
        summaryText colored kept.length events.length := by
  rw [filteredText, Chain.kept_matching]
  rfl

/-! ## Runs -/

/-- Two hosts that differ at most in files, and not in the one at a path. -/
structure Host.AgreesBut (host other : Host) (path : String) : Prop where
  environment : other.environment = host.environment
  file : other.file path = host.file path
  isTerminal : other.isTerminal = host.isTerminal
  now : other.now = host.now
  admission? : other.admission? = host.admission?

variable {host : Host} {words : List String} {file text : String} {config : Option String}
  {verbosity : Nat} {color : ColorMode} {json : Bool} {condition : Expr} {events : List Event}

/-- A condition on the command line takes the place of the rules, which are not read. -/
theorem filterChain_of_parse {files : String → File}
    (h : Expr.parse .standard text = .ok condition) :
    filterChain files (some text) config = .ok (.matching condition) := by
  rw [filterChain, parseCondition, h]
  rfl

theorem Filtering.run_of_parse {files : String → File} {now : DateTime} {colored : Bool}
    (hcondition : Expr.parse .standard text = .ok condition)
    (hevents : Event.ofFile now (files file) = .ok events) :
    Filtering.run files now colored config ⟨file, some text, json⟩ =
      .ok ⟨filteredText colored json (.matching condition) events,
        events.filterMap condition.warning?⟩ := by
  rw [← Chain.warnings_matching]
  unfold Filtering.run
  rw [filterChain_of_parse hcondition, hevents]
  rfl

/-- Filtering with a condition looks at one file. -/
theorem Filtering.run_congr {files others : String → File} (h : others file = files file)
    (now : DateTime) (colored : Bool) :
    Filtering.run others now colored config ⟨file, some text, json⟩ =
      Filtering.run files now colored config ⟨file, some text, json⟩ := by
  -- the chain comes from the condition, so only the file of events is left to compare
  unfold Filtering.run
  rw [h]
  rfl

/-- **A run that filters a file by a condition looks at no other file.** -/
theorem run_congr {other : Host}
    (hwords : Arguments.read (host.environment configVariable) words =
      .ok ⟨config, verbosity, color, .filter ⟨file, some text, json⟩⟩)
    (h : host.AgreesBut other file) : run other words = run host words := by
  obtain ⟨environment, files, isTerminal, now, admission?⟩ := host
  obtain ⟨environment', files', isTerminal', now', admission?'⟩ := other
  obtain ⟨rfl, hfile, rfl, rfl, rfl⟩ := h
  unfold run
  rw [hwords]
  dsimp only [Arguments.run]
  rw [Filtering.run_congr hfile]
  rfl

/-- **A run that filters a file of events by a condition prints the events for which the condition
is true, in the order of the file, and looks at no other file.** JSON stands on one line for each
event; else a summary counts the events that are printed and those of the file. Events for which the
condition has no value are left out like those for which it has another one, with a warning of each
that the host admits. Every condition can be said on a command line, by `read_joined`. -/
theorem run_filter
    (hwords : Arguments.read (host.environment configVariable) words =
      .ok ⟨config, verbosity, color, .filter ⟨file, some text, json⟩⟩)
    (hcondition : Expr.parse .standard text = .ok condition)
    (hevents : Event.ofFile host.now (host.file file) = .ok events) :
    let colored := color.colors (colorsByDefault host.environment host.isTerminal)
    let kept := events.filter condition.isTrueFor
    let warnings := (events.filterMap condition.warning?).filter (host.admits verbosity)
    (∀ other, host.AgreesBut other file → run other words = run host words) ∧
      ∃ output, run host words = ⟨0, output, warnings, ""⟩ ∧
        (json = true → output = jsonLines kept ∧
          Event.physicalLines output.toList = kept.map fun event => event.jsonLine.toList) ∧
        (json = false → output = String.join (kept.map (eventText colored)) ++
          summaryText colored kept.length events.length) := by
  intro colored kept warnings
  refine ⟨fun other => run_congr hwords, filteredText colored json (.matching condition) events,
    ?_, ?_, ?_⟩
  · unfold run
    rw [hwords]
    dsimp only [Arguments.run]
    rw [Filtering.run_of_parse hcondition hevents]
  · rintro rfl
    rw [filteredText_matching]
    refine ⟨rfl, ?_⟩
    rw [if_pos rfl, toList_jsonLines, Event.physicalLines_jsonLines]
  · rintro rfl
    rw [filteredText_matching]
    rfl

/-! ### A run over two events -/

/-- The condition that an event is a warning, or that its message is not so. -/
def warnOrUntrue : Expr :=
  .or (.relation .equal .level (.literal (.level .warn))) (.not .message)

theorem parse_warnOrUntrue :
    Expr.parse .standard "level = loglevel.warn or not message" = .ok warnOrUntrue := by
  have hcomplete : (Tokens.ofText "level = loglevel.warn or not message").IsComplete :=
    ⟨_, by cbv⟩
  have hmessage : Derives .standard .operand [.keyword "message"] .message :=
    .word (show Word.Says _ "message" by decide +kernel) (by simp [fixedWords])
  exact parse_warnOr hcomplete (by decide +kernel) hmessage (by rintro w ⟨⟩; decide +kernel)

/-- The line of an event that gives nothing but its level. -/
def infoLine : List Char := "\x7b\"level\":\"Info\"\x7d".toList

theorem read_infoLine (now : DateTime) :
    Event.read now infoLine = .ok (.plain .info "" "" now) := by
  have hlevel (rest : List Char) :
      Json.Gives (Event.eventShape.read "level" {} (Json.quoted "Info" ++ rest))
        { level := some .info } rest :=
    Json.gives_map_iff.2 ⟨.info, Event.gives_parsedField_quoted (by decide +kernel) rest, rfl⟩
  have hfills : Event.Fills Event.eventShape {} [Event.field "level" (Json.quoted "Info")]
      { level := some .info } := .one (by decide) rfl hlevel
  exact Event.read_eq_ok_iff.2 ⟨_, Event.readDraft_of_fills (by simp) hfills rfl, rfl⟩

/-- A file of two events with a line of blanks between them, and no other file. -/
def twoEvents : Host where
  environment := fun _ => none
  file := fun path =>
    if path = "events" then
      .ok ⟨Event.halfDoneLine ++ "\n \n".toList ++ infoLine ++ ['\n'], false⟩
    else .error .notFound
  isTerminal := false
  now := Event.newYear
  admission? := none

theorem ofFile_twoEvents :
    Event.ofFile twoEvents.now (twoEvents.file "events") =
      .ok [Event.halfDone twoEvents.now, .plain .info "" "" twoEvents.now] := by
  have hlines : Event.physicalLines
      (Event.halfDoneLine ++ "\n \n".toList ++ infoLine ++ ['\n']) =
        [Event.halfDoneLine, [' '], infoLine] := by decide
  have hblank : Text.isBlankText Event.halfDoneLine = false ∧ Text.isBlankText [' '] = true ∧
      Text.isBlankText infoLine = false := by decide
  show Event.readLines twoEvents.now 1 (Event.physicalLines _) = _
  rw [hlines]
  simp [Event.readLines, hblank, Event.read_halfDoneLine, read_infoLine, Except.map]

/-- The event that is a warning is printed, with or without JSON. The message of the other one is no
truth value. -/
theorem run_filter_twoEvents :
    let untrue := Warning.noValue "((level == loglevel.Warn) or (not message))"
      (.notBoolean .string "message")
    run twoEvents ["filter", "--condition=level = loglevel.warn or not message", "--", "events"] =
        ⟨0, "2023-01-01 00:00:00.000 WARN   half done\n\nMatched 1 of 2 events\n", [untrue], ""⟩ ∧
      run twoEvents ["filter", "events", "--condition", "level = loglevel.warn or not message",
          "--json"] =
        ⟨0, (Event.halfDone twoEvents.now).jsonLine ++ "\n", [untrue], ""⟩ := by
  intro untrue
  have hkept : [Event.halfDone twoEvents.now, .plain .info "" "" twoEvents.now].filter
      warnOrUntrue.isTrueFor = [Event.halfDone twoEvents.now] := rfl
  have hwarnings : ([Event.halfDone twoEvents.now, .plain .info "" "" twoEvents.now].filterMap
      warnOrUntrue.warning?).filter (twoEvents.admits 0) = [untrue] := by decide +kernel
  have henvironment : twoEvents.environment configVariable ≠ some "" := by decide
  have hfile : "events" ≠ "" := by decide
  have hjoined := read_joined henvironment hfile "level = loglevel.warn or not message" false
  have hplain : Word.of "level = loglevel.warn or not message" =
      .plain "level = loglevel.warn or not message" := rfl
  have hapart := read_apart henvironment hfile rfl hplain true
  obtain ⟨-, output, hrun, -, hshown⟩ := run_filter hjoined parse_warnOrUntrue ofFile_twoEvents
  obtain ⟨-, output', hrun', hjson, -⟩ := run_filter hapart parse_warnOrUntrue ofFile_twoEvents
  rw [hwarnings] at hrun hrun'
  refine ⟨hrun.trans ?_, hrun'.trans ?_⟩
  · rw [hshown rfl, hkept]
    decide +kernel
  · rw [(hjson rfl).1, hkept]
    simp [jsonLines, String.join]

end CommandLine

end LogFilter
