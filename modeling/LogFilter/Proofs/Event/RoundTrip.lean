import LogFilter.Event.Printer
import LogFilter.Proofs.Calendar.ReadBack
import LogFilter.Proofs.Event.Lines
import LogFilter.Proofs.Event.Readers
import LogFilter.Proofs.Json.ReadBack

/-!
# Events that are read back

An event that was read, in whatever form, is read again from the line that is written for it, and
all its parts are the same (`read_jsonLine`). What is not written is what a reading puts in by
itself: no exception and no properties. So a file of written lines has the events for which they
were written (`ofFile_written`).
-/

namespace LogFilter.Event

open Json Text

/-! ## Fields in a row -/

section

variable {δ : Type} {shape : Shape δ}

/-- Texts of fields that are read one after the other into a draft. -/
inductive Fills (shape : Shape δ) : δ → List (List Char) → δ → Prop
  | nil {draft : δ} : Fills shape draft [] draft
  | cons {draft next result : δ} {name : String} {value : List Char} {texts : List (List Char)}
      (hname : shape.names.contains name = true) (hset : shape.isSet name draft = false)
      (hread : ∀ rest, Gives (shape.read name draft (value ++ rest)) next rest)
      (h : Fills shape next texts result) : Fills shape draft (field name value :: texts) result

theorem Fills.one {draft next : δ} {name : String} {value : List Char}
    (hname : shape.names.contains name = true) (hset : shape.isSet name draft = false)
    (hread : ∀ rest, Gives (shape.read name draft (value ++ rest)) next rest) :
    Fills shape draft [field name value] next :=
  .cons hname hset hread .nil

/-- A field that may be left out. -/
theorem Fills.unless {absent : Bool} {draft next : δ} {name : String} {value : List Char}
    (hname : shape.names.contains name = true) (hset : shape.isSet name draft = false)
    (hread : ∀ rest, Gives (shape.read name draft (value ++ rest)) next rest) :
    Fills shape draft (if absent then [] else [field name value])
      (if absent then draft else next) := by
  cases absent with
  | true => exact .nil
  | false => exact .one hname hset hread

theorem Fills.append {draft next result : δ} {texts texts' : List (List Char)}
    (h : Fills shape draft texts next) (h' : Fills shape next texts' result) :
    Fills shape draft (texts ++ texts') result := by
  induction h with
  | nil => exact h'
  | cons hname hset hread _ ih => exact .cons hname hset hread (ih h')

/-- Fields with commas between them and a brace after them are read to the end. -/
theorem Fills.gives_namedFields {draft result : δ} {texts : List (List Char)} (hne : texts ≠ [])
    (h : Fills shape draft texts result) (rest : List Char) :
    Gives (namedFields shape draft ((texts.intersperse [',']).flatten ++ '\x7d' :: rest)) result
      rest := by
  induction h with
  | nil => exact absurd rfl hne
  | @cons draft next result name value texts hname hset hread hmore ih =>
    -- a field is read up to whatever comes after it
    have hfield (after : List Char) : ∃ afterKey, Gives (readKey (field name value ++ after)) name
        afterKey ∧ skipBlanks afterKey = ':' :: (value ++ after) := by
      refine ⟨':' :: (value ++ after), ?_, skipBlanks_cons (by decide) _⟩
      rw [field, List.append_assoc, List.cons_append]
      exact gives_readKey_quoted name (':' :: (value ++ after))
    have hvalue (after : List Char) :
        Gives (readOrSkip shape name draft (value ++ after)) next after := by
      rw [readOrSkip, if_pos hname]
      exact hread after
    have hfirst : ¬(shape.names.contains name && shape.isSet name draft) = true := by simp [hset]
    cases texts with
    | nil =>
      cases hmore
      have htext : ([field name value].intersperse [',']).flatten ++ '\x7d' :: rest =
          field name value ++ '\x7d' :: rest := by simp
      obtain ⟨afterKey, hkey, hcolon⟩ := hfield ('\x7d' :: rest)
      rw [htext]
      exact gives_namedFields_iff.2 ⟨name, afterKey, value ++ '\x7d' :: rest, next, '\x7d' :: rest,
        hkey, hfirst, hcolon, hvalue _, .inr ⟨skipBlanks_cons (by decide) rest, rfl⟩⟩
    | cons text others =>
      let after := ((text :: others).intersperse [',']).flatten ++ '\x7d' :: rest
      have htext : ((field name value :: text :: others).intersperse [',']).flatten ++
          '\x7d' :: rest = field name value ++ ',' :: after := by
        simp [after, List.intersperse_cons_cons]
      obtain ⟨afterKey, hkey, hcolon⟩ := hfield (',' :: after)
      rw [htext]
      exact gives_namedFields_iff.2 ⟨name, afterKey, value ++ ',' :: after, next, ',' :: after,
        hkey, hfirst, hcolon, hvalue _, .inl ⟨after, skipBlanks_cons (by decide) after, 
          ih (List.cons_ne_nil text others)⟩⟩

end

/-! ## Values of fields -/

theorem gives_stringField_quoted (text : String) (rest : List Char) :
    Gives (stringField (quoted text ++ rest)) text rest := by
  refine gives_stringField_iff.2 ⟨_, ?_, gives_readString_quoted text rest⟩
  rw [quoted_append, skipBlanks_cons (by decide)]

theorem gives_parsedField_quoted {α : Type} {f : String → Option α} {text : String} {value : α}
    (h : f text = some value) (rest : List Char) :
    Gives (parsedField f (quoted text ++ rest)) value rest :=
  gives_parsedField_iff.2 ⟨text, gives_stringField_quoted text rest, h⟩

theorem gives_objectField_text {depth : Nat} {fields : Fields} (hdepth : 1 < depth)
    (h : Fields.IsNormal (depth - 1) fields)
    (hdoubles : ∀ x ∈ fieldsDoubles fields, ReadsBack x) (rest : List Char) :
    Gives (objectField depth ((Json.object fields).text ++ rest)) fields rest := by
  have hvalues : ∀ p ∈ fields, IsReadBack (depth - 1) p.2 := fun p hp =>
    isReadBack_of_isNormal (h.values p hp) fun x hx => hdoubles x (mem_fieldsDoubles hp hx)
  have htext : (Json.object fields).text ++ rest =
      '\x7b' :: (fieldsText fields ++ '\x7d' :: rest) := by
    simp [text]
  rw [htext]
  exact gives_objectField_iff.2 ⟨_, skipBlanks_cons (by decide) _, hdepth,
    gives_readFields_text h.sorted hvalues rest⟩

/-! ## Exceptions -/

theorem fills_exception (e : ExceptionInfo) :
    Fills exceptionShape {} [field "type" (quoted e.kind), field "message" (quoted e.message)]
      { kind := some e.kind, message := some e.message } := by
  have hkind (rest : List Char) :
      Gives (exceptionShape.read "type" {} (quoted e.kind ++ rest)) { kind := some e.kind } rest :=
    gives_map_iff.2 ⟨_, gives_stringField_quoted e.kind rest, rfl⟩
  have hmessage (rest : List Char) :
      Gives (exceptionShape.read "message" { kind := some e.kind } (quoted e.message ++ rest))
        { kind := some e.kind, message := some e.message } rest :=
    gives_map_iff.2 ⟨_, gives_stringField_quoted e.message rest, rfl⟩
  exact .cons (by decide) rfl hkind (.one (by decide) rfl hmessage)

/-- An exception is read from the object that is written of it. -/
theorem gives_exceptionField_text {depth : Nat} (hdepth : 1 < depth) (e : ExceptionInfo)
    (rest : List Char) :
    Gives (exceptionField depth ('\x7b' :: (exceptionText e ++ ['\x7d']) ++ rest)) (some e) rest := by
  have htext : '\x7b' :: (exceptionText e ++ ['\x7d']) ++ rest =
      '\x7b' :: (([field "type" (quoted e.kind), field "message" (quoted e.message)].intersperse
        [',']).flatten ++ '\x7d' :: rest) := by
    simp [exceptionText, fieldsText, text, field]
  have hskip := skipBlanks_cons (show isJsonBlank '\x7b' = false by decide)
  rw [htext]
  unfold exceptionField
  split
  · next r hr => exact absurd ((hskip _).symm.trans hr) (by simp)
  · refine gives_map_iff.2 ⟨{ kind := some e.kind, message := some e.message }, ?_, rfl⟩
    exact gives_shaped_of_namedFields (hskip _) hdepth
      ((fills_exception e).gives_namedFields (by simp) rest)

/-! ## Events -/

/-- What is written of an event: all but what is there of itself. -/
def written (event : Event) : Draft where
  level := some event.level
  logger := some event.logger
  message := some event.message
  exception := event.exception.map some
  timestamp := some event.timestamp
  properties := if event.properties.isEmpty then none else some event.properties
  scopeProperties := if event.scopeProperties.isEmpty then none else some event.scopeProperties

theorem finish?_written (event : Event) (now : DateTime) :
    event.written.finish? now = some event := by
  obtain ⟨level, logger, message, exception, timestamp, properties, scopeProperties⟩ := event
  cases exception <;> cases properties <;> cases scopeProperties <;> rfl

/-- The first fields, which are written of every event. -/
theorem fills_head (level : Level) (logger message : String) :
    Fills eventShape {} [field "level" (quoted level.name), field "logger" (quoted logger),
        field "message" (quoted message)]
      { level := some level, logger := some logger, message := some message } := by
  have hlevel (rest : List Char) :
      Gives (eventShape.read "level" {} (quoted level.name ++ rest)) { level := some level } rest :=
    gives_map_iff.2 ⟨_, gives_parsedField_quoted (Level.ofName?_name level) rest, rfl⟩
  have hlogger (rest : List Char) :
      Gives (eventShape.read "logger" { level := some level } (quoted logger ++ rest))
        { level := some level, logger := some logger } rest :=
    gives_map_iff.2 ⟨_, gives_stringField_quoted logger rest, rfl⟩
  have hmessage (rest : List Char) :
      Gives (eventShape.read "message" { level := some level, logger := some logger }
          (quoted message ++ rest))
        { level := some level, logger := some logger, message := some message } rest :=
    gives_map_iff.2 ⟨_, gives_stringField_quoted message rest, rfl⟩
  exact .cons (by decide) rfl hlevel (.cons (by decide) rfl hlogger
    (.one (by decide) rfl hmessage))

section

variable {draft : Draft}

theorem fills_exceptionField (hnone : draft.exception = none) (exception : Option ExceptionInfo) :
    Fills eventShape draft
      (match exception with
        | some e => [field "exception" ('\x7b' :: (exceptionText e ++ ['\x7d']))]
        | none => [])
      { draft with exception := exception.map some } := by
  cases exception with
  | none =>
    have hsame : { draft with exception := none } = draft := by rw [← hnone]
    rw [Option.map_none, hsame]
    exact .nil
  | some e =>
    have hread (rest : List Char) :
        Gives (eventShape.read "exception" draft ('\x7b' :: (exceptionText e ++ ['\x7d']) ++ rest))
          { draft with exception := some (some e) } rest :=
      gives_map_iff.2 ⟨_, gives_exceptionField_text (by decide) e rest, rfl⟩
    have hset : eventShape.isSet "exception" draft = false := by simp [eventShape, hnone]
    exact .one (by decide) hset hread

theorem fills_timestamp (hnone : draft.timestamp = none) {text : String} {timestamp : DateTime}
    (htext : DateTime.readRelaxed? text.toList = some timestamp) :
    Fills eventShape draft [field "timestamp" (quoted text)]
      { draft with timestamp := some timestamp } := by
  have hread (rest : List Char) :
      Gives (eventShape.read "timestamp" draft (quoted text ++ rest))
        { draft with timestamp := some timestamp } rest :=
    gives_map_iff.2 ⟨_, gives_parsedField_quoted htext rest, rfl⟩
  have hset : eventShape.isSet "timestamp" draft = false := by simp [eventShape, hnone]
  exact .one (by decide) hset hread

variable {fields : Fields}

theorem fills_properties (hnone : draft.properties = none)
    (h : Fields.IsNormal (depthLimit - 2) fields)
    (hdoubles : ∀ x ∈ fieldsDoubles fields, ReadsBack x) :
    Fills eventShape draft
      (if fields.isEmpty then [] else [field "properties" (Json.object fields).text])
      { draft with properties := if fields.isEmpty then none else some fields } := by
  have hread (rest : List Char) :
      Gives (eventShape.read "properties" draft ((Json.object fields).text ++ rest))
        { draft with properties := some fields } rest :=
    gives_map_iff.2 ⟨_, gives_objectField_text (by decide) h hdoubles rest, rfl⟩
  have hset : eventShape.isSet "properties" draft = false := by simp [eventShape, hnone]
  have hdraft : { draft with properties := if fields.isEmpty then none else some fields } =
      if fields.isEmpty then draft else { draft with properties := some fields } := by
    split
    · rw [← hnone]
    · rfl
  rw [hdraft]
  exact .unless (by decide) hset hread

theorem fills_scopeProperties (hnone : draft.scopeProperties = none)
    (h : Fields.IsNormal (depthLimit - 2) fields)
    (hdoubles : ∀ x ∈ fieldsDoubles fields, ReadsBack x) :
    Fills eventShape draft
      (if fields.isEmpty then [] else [field "scope_properties" (Json.object fields).text])
      { draft with scopeProperties := if fields.isEmpty then none else some fields } := by
  have hread (rest : List Char) :
      Gives (eventShape.read "scope_properties" draft ((Json.object fields).text ++ rest))
        { draft with scopeProperties := some fields } rest :=
    gives_map_iff.2 ⟨_, gives_objectField_text (by decide) h hdoubles rest, rfl⟩
  have hset : eventShape.isSet "scope_properties" draft = false := by simp [eventShape, hnone]
  have hdraft : { draft with scopeProperties := if fields.isEmpty then none else some fields } =
      if fields.isEmpty then draft else { draft with scopeProperties := some fields } := by
    split
    · rw [← hnone]
    · rfl
  rw [hdraft]
  exact .unless (by decide) hset hread

end

theorem fills_fieldTexts {event : Event}
    (hproperties : Fields.IsNormal (depthLimit - 2) event.properties)
    (hscope : Fields.IsNormal (depthLimit - 2) event.scopeProperties)
    (hdoubles : ∀ x ∈ fieldsDoubles event.properties ++ fieldsDoubles event.scopeProperties,
      ReadsBack x) :
    Fills eventShape {} event.fieldTexts event.written := by
  have hevent : ∀ x ∈ fieldsDoubles event.properties, ReadsBack x := fun x hx =>
    hdoubles x (List.mem_append_left _ hx)
  have hscopeDoubles : ∀ x ∈ fieldsDoubles event.scopeProperties, ReadsBack x := fun x hx =>
    hdoubles x (List.mem_append_right _ hx)
  have htimestamp :
      DateTime.readRelaxed? (String.ofList event.timestamp.rfc3339Text).toList =
        some event.timestamp := by
    rw [String.toList_ofList, DateTime.readRelaxed?_rfc3339Text]
  exact ((((fills_head event.level event.logger event.message).append
    (fills_exceptionField rfl event.exception)).append
    (fills_timestamp rfl htimestamp)).append
    (fills_properties rfl hproperties hevent)).append
    (fills_scopeProperties rfl hscope hscopeDoubles)

/-- Fields of an object are read in whatever order they come, if there is a level among them. -/
theorem readDraft_of_fills {texts : List (List Char)} {draft : Draft} (hne : texts ≠ [])
    (h : Fills eventShape {} texts draft) (hlevel : draft.level.isSome = true) :
    readDraft ('\x7b' :: ((texts.intersperse [',']).flatten ++ ['\x7d'])) = .ok draft :=
  readDraft_eq_ok_iff.2 ⟨[], gives_shaped_of_namedFields (skipBlanks_cons (by decide) _)
    (by decide) (h.gives_namedFields hne []), rfl, hlevel⟩

/-- The line of a normal event gives just what is written of it. -/
theorem readDraft_jsonLine {event : Event}
    (hproperties : Fields.IsNormal (depthLimit - 2) event.properties)
    (hscope : Fields.IsNormal (depthLimit - 2) event.scopeProperties)
    (hdoubles : ∀ x ∈ fieldsDoubles event.properties ++ fieldsDoubles event.scopeProperties,
      ReadsBack x) :
    readDraft event.jsonLine.toList = .ok event.written := by
  have hfills := fills_fieldTexts hproperties hscope hdoubles
  rw [jsonLine, String.toList_ofList]
  exact readDraft_of_fills (by simp [fieldTexts]) hfills rfl

theorem read_of_readDraft_written {s : List Char} {event : Event}
    (h : readDraft s = .ok event.written) (later : DateTime) : read later s = .ok event :=
  read_eq_ok_iff.2 ⟨event.written, h, finish?_written event later⟩

/-- **An event that was read from any line is read again from the line that is written for it, at
any later time, if the doubles in it are read back from their texts.** That line gives a level, a
logger, a message and a time, and of the other parts those that are there. -/
theorem read_jsonLine {now : DateTime} {line : List Char} {event : Event}
    (h : read now line = .ok event)
    (hdoubles : ∀ x ∈ fieldsDoubles event.properties ++ fieldsDoubles event.scopeProperties,
      ReadsBack x) :
    readDraft event.jsonLine.toList = .ok event.written ∧
      ∀ later, read later event.jsonLine.toList = .ok event := by
  -- of the line it is only needed that what is read is normal
  obtain ⟨hproperties, hscope⟩ := isNormal_of_read h
  have hdraft := readDraft_jsonLine hproperties hscope hdoubles
  exact ⟨hdraft, read_of_readDraft_written hdraft⟩

/-! ### An event in another order -/

/-- An event with a number that is no whole number. -/
def halfDone (timestamp : DateTime) : Event :=
  { plain .warn "" "half done" timestamp with
    scopeProperties := [("share", .number (.double half))] }

theorem gives_objectField_share {depth : Nat} (hdepth : 1 < depth) (rest : List Char) :
    Gives (objectField depth ('\x7b' :: (field "share" ['5', 'e', '-', '1', '\x7d'] ++ rest)))
      [("share", .number (.double half))] rest := by
  have hnumeral : takeNumeral ('5' :: 'e' :: '-' :: '1' :: '\x7d' :: rest) =
      .ok (⟨['5'], none, some (true, ['1'])⟩, '\x7d' :: rest) := rfl
  have hvalue : Numeral.value false ⟨['5'], none, some (true, ['1'])⟩ = .ok (.double half) :=
    Numeral.value_of_double false rfl (by decide +kernel)
  have hhalf : Gives (readValue (depth - 1) ('5' :: 'e' :: '-' :: '1' :: '\x7d' :: rest))
      (.number (.double half)) ('\x7d' :: rest) :=
    gives_readValue_iff.2 (.number rfl (gives_readNumber_iff.2 ⟨_, hnumeral, hvalue⟩))
  have htext : field "share" ['5', 'e', '-', '1', '\x7d'] ++ rest =
      quoted "share" ++ ':' :: '5' :: 'e' :: '-' :: '1' :: '\x7d' :: rest := by simp [field]
  refine gives_objectField_iff.2 ⟨_, skipBlanks_cons (by decide) _, hdepth, ?_⟩
  rw [htext]
  have hopen : (skipBlanks
      (quoted "share" ++ ':' :: '5' :: 'e' :: '-' :: '1' :: '\x7d' :: rest)).head? ≠
        some '\x7d' := by
    rw [quoted_append, skipBlanks_cons (by decide)]
    simp
  refine gives_readFields_iff.2 (.inr ⟨hopen, ?_⟩)
  exact gives_readFieldsFrom_iff.2 ⟨"share", _, _, _, gives_readName_quoted "share" _, hhalf,
    .inr ⟨rfl, rfl⟩⟩

/-- The line of an event that gives no logger and no time, and its number in another form. -/
def halfDoneLine : List Char :=
  "\x7b\"scope_properties\":\x7b\"share\":5e-1\x7d,\"message\":\"half done\",\"level\":\"WARN\"\x7d".toList

theorem read_halfDoneLine (now : DateTime) : read now halfDoneLine = .ok (halfDone now) := by
  let share : List Char := '\x7b' :: field "share" ['5', 'e', '-', '1', '\x7d']
  let texts : List (List Char) := [field "scope_properties" share,
    field "message" (quoted "half done"), field "level" (quoted "WARN")]
  let shared : Draft := { scopeProperties := some [("share", .number (.double half))] }
  have hscope (rest : List Char) :
      Gives (eventShape.read "scope_properties" {} (share ++ rest)) shared rest :=
    gives_map_iff.2 ⟨_, gives_objectField_share (by decide) rest, rfl⟩
  have hmessage (rest : List Char) :
      Gives (eventShape.read "message" shared (quoted "half done" ++ rest))
        { shared with message := some "half done" } rest :=
    gives_map_iff.2 ⟨_, gives_stringField_quoted "half done" rest, rfl⟩
  have hlevel (rest : List Char) :
      Gives (eventShape.read "level" { shared with message := some "half done" }
          (quoted "WARN" ++ rest))
        { shared with message := some "half done", level := some .warn } rest :=
    gives_map_iff.2 ⟨.warn, gives_parsedField_quoted (by decide +kernel) rest, rfl⟩
  have hfills : Fills eventShape {} texts
      { shared with message := some "half done", level := some .warn } :=
    .cons (by decide) rfl hscope (.cons (by decide) rfl hmessage
      (.one (by decide) rfl hlevel))
  have htext : halfDoneLine = '\x7b' :: ((texts.intersperse [',']).flatten ++ ['\x7d']) := by
    decide
  rw [htext]
  exact read_eq_ok_iff.2 ⟨_, readDraft_of_fills (by simp [texts]) hfills rfl, rfl⟩

/-- The first moment of the year 2023. -/
def newYear : DateTime := ⟨⟨2023, 1, 1, by decide⟩, .midnight⟩

/-- The first moment of the next day. -/
def dayAfter : DateTime := ⟨⟨2023, 1, 2, by decide⟩, .midnight⟩

theorem read_jsonLine_halfDone :
    read newYear halfDoneLine = .ok (halfDone newYear) ∧
      readDraft (halfDone newYear).jsonLine.toList = .ok (halfDone newYear).written ∧
      read dayAfter (halfDone newYear).jsonLine.toList = .ok (halfDone newYear) := by
  have hread := read_halfDoneLine newYear
  have hdoubles : ∀ x ∈ fieldsDoubles (halfDone newYear).properties ++
      fieldsDoubles (halfDone newYear).scopeProperties, ReadsBack x := by
    intro x hx
    obtain rfl : x = half := by simpa [halfDone, plain, fieldsDoubles, doubles] using hx
    exact readsBack_half
  obtain ⟨hdraft, hback⟩ := read_jsonLine hread hdoubles
  exact ⟨hread, hdraft, hback dayAfter⟩

/-! ## Files of events -/

theorem isBlankText_jsonLine (event : Event) : isBlankText event.jsonLine.toList = false := by
  rw [jsonLine, String.toList_ofList, isBlankText, List.all_cons]
  rfl

theorem readLines_jsonLines {later : DateTime} {events : List Event}
    (h : ∀ event ∈ events, read later event.jsonLine.toList = .ok event) (number : Nat) :
    readLines later number (events.map fun event => event.jsonLine.toList) = .ok events := by
  induction events generalizing number with
  | nil => rfl
  | cons event events ih =>
    obtain ⟨hfirst, hmore⟩ := List.forall_mem_cons.1 h
    rw [List.map_cons, readLines, isBlankText_jsonLine, if_neg Bool.false_ne_true, hfirst,
      ih hmore]
    rfl

/-- **Events that were read from a file are read again from the lines that are written for them**,
however they are selected, if the doubles in them are read back. -/
theorem ofFile_written {now later : DateTime} {file : File} {events selected : List Event}
    (h : ofFile now file = .ok events) (hselected : selected ⊆ events)
    (hdoubles : ∀ event ∈ selected,
      ∀ x ∈ fieldsDoubles event.properties ++ fieldsDoubles event.scopeProperties, ReadsBack x) :
    ofFile later (.ok ⟨selected.flatMap fun event => event.jsonLine.toList ++ ['\n'], false⟩) =
      .ok selected := by
  have hread : ∀ event ∈ selected, read later event.jsonLine.toList = .ok event := by
    intro event hevent
    obtain ⟨line, hline⟩ := exists_read_of_ofFile h (hselected hevent)
    obtain ⟨hproperties, hscope⟩ := isNormal_of_read hline
    exact read_of_readDraft_written
      (readDraft_jsonLine hproperties hscope (hdoubles event hevent)) later
  refine ofFile_eq_ok_iff.2 ⟨_, rfl, ?_⟩
  rw [physicalLines_jsonLines]
  exact readLines_jsonLines hread 1

end LogFilter.Event
