import LogFilter.Calendar.Reader
import LogFilter.Event.Basic
import LogFilter.Json.Reader

/-!
# Events from JSON

An event is read from an object with its fields in any order, or from an array with its fields in
the order of the type. Fields of an object that no event has are passed over; in an array the last
fields may be missing, but none may be too many.

Reading stops at the first thing that is wrong. Text that is no JSON is told apart from JSON of the
wrong shape, so the shape is checked while the text is read and not afterwards.

## Termination

The loops over fields go on with the rest of a field that was read, which is shorter.
-/

namespace LogFilter.Event

open Json Text

/-! ## Fields -/

/-- A value of another shape than the one wanted. Its text is looked at only as far as is needed to
see what it is. -/
def refuse {α : Type} (s : List Char) : Except Json.Fault α :=
  match skipBlanks s with
  | [] => .error .malformed
  | c :: r =>
    match word? c with
    | some (word, _) => do
      let _ ← expectWord word r
      .error .mismatch
    | none =>
      if c = '"' then do
        let _ ← readString r
        .error .mismatch
      else if c = '-' then do
        let _ ← readNumber true r
        .error .mismatch
      else if c.isDigit then do
        let _ ← readNumber false (c :: r)
        .error .mismatch
      else if c = '[' || c = '\x7b' then .error .mismatch
      else .error .malformed

/-- A field that is a string. -/
def stringField (s : List Char) : Reading String s :=
  match h : skipBlanks s with
  | '"' :: r => do
    let t ← readString r
    .ok (afterBlanks h t)
  | _ => refuse s

/-- A field that is a string of which something else is made. -/
def parsedField {α : Type} (f : String → Option α) (s : List Char) : Reading α s := do
  let t ← stringField s
  match f t.value with
  | some value => .ok (t.map fun _ => value)
  | none => .error .mismatch

/-- A field that is an object with fields of any names. -/
def objectField (depth : Nat) (s : List Char) : Reading Json.Fields s :=
  match h : skipBlanks s with
  | '\x7b' :: r =>
    if depth ≤ 1 then .error .malformed
    else do
      let t ← readFields (depth - 1) r
      .ok (afterBlanks h t)
  | _ => refuse s

/-! ## Shapes with named fields -/

/-- How a value with named fields is put together from those that its text gives. -/
structure Shape (δ : Type) where
  /-- The names of the fields, in the order in which an array gives them. -/
  names : List String
  /-- Reads a field into what was read before. -/
  read : String → δ → (s : List Char) → Reading δ s
  /-- Whether a field was read before. -/
  isSet : String → δ → Bool

/-- What is left after a name, a colon, a value and one character more. -/
theorem length_afterField {s afterName afterColon afterValue r : List Char} {c : Char}
    (hname : afterName.length < s.length) (hcolon : afterColon.length < afterName.length)
    (hvalue : afterValue.length < afterColon.length) (h : skipBlanks afterValue = c :: r) :
    r.length < s.length := by
  have := length_of_skipBlanks h
  omega

/-- The fields of an object from its first name on, and the closing brace. -/
def namedFields {δ : Type} (shape : Shape δ) (draft : δ) (s : List Char) : Reading δ s := do
  let name ← readKey s
  have hn := name.shorter
  let known := shape.names.contains name.value
  if known && shape.isSet name.value draft then .error .mismatch
  else
    let ⟨afterColon, hc⟩ ← expectChar ':' name.rest
    let value : Taken δ afterColon ←
      if known then shape.read name.value draft afterColon
      else (skipValue afterColon).map (Taken.map fun _ => draft)
    have hv := value.shorter
    match h : skipBlanks value.rest with
    | ',' :: r =>
      have hr : r.length < s.length := length_afterField hn hc hv h
      let more ← namedFields shape value.value r
      .ok ⟨more.value, more.rest, Nat.lt_trans more.shorter hr⟩
    | '\x7d' :: r => .ok ⟨value.value, r, length_afterField hn hc hv h⟩
    | _ => .error .malformed
termination_by s.length

/-- One field after the other in the order of `names`, and the closing bracket. -/
def listedFields {δ : Type} (shape : Shape δ) :
    List String → δ → (s : List Char) → Reading δ s
  | [], _, _ => .error .malformed
  | name :: names, draft, s => do
    let value ← shape.read name draft s
    have hv := value.shorter
    match h : skipBlanks value.rest with
    | ',' :: r =>
      have hr : r.length < s.length := Nat.lt_trans (length_of_skipBlanks h) hv
      let more ← listedFields shape names value.value r
      .ok ⟨more.value, more.rest, Nat.lt_trans more.shorter hr⟩
    | ']' :: r => .ok ⟨value.value, r, Nat.lt_trans (length_of_skipBlanks h) hv⟩
    | _ => .error .malformed

/-- The fields of an object or an array, put into `empty`. -/
def shaped {δ : Type} (shape : Shape δ) (depth : Nat) (empty : δ) (s : List Char) : Reading δ s :=
  match h : skipBlanks s with
  | '\x7b' :: r =>
    if depth ≤ 1 then .error .malformed
    else
      match h' : skipBlanks r with
      | '\x7d' :: _ => .ok (afterBlanks h (atBlanks h' empty))
      | _ => do
        let t ← namedFields shape empty r
        .ok (afterBlanks h t)
  | '[' :: r =>
    if depth ≤ 1 then .error .malformed
    else
      match h' : skipBlanks r with
      | ']' :: _ => .ok (afterBlanks h (atBlanks h' empty))
      | _ => do
        let t ← listedFields shape shape.names empty r
        .ok (afterBlanks h t)
  | _ => refuse s

/-! ## Exceptions -/

/-- The fields of an exception that its text gives. -/
structure ExceptionDraft where
  kind : Option String := none
  message : Option String := none

def ExceptionDraft.finish (draft : ExceptionDraft) : ExceptionInfo :=
  ⟨draft.kind.getD ExceptionInfo.defaultKind, draft.message.getD ""⟩

def exceptionShape : Shape ExceptionDraft where
  names := ["type", "message"]
  read := fun name draft s =>
    if name = "type" then
      (stringField s).map (Taken.map fun v => { draft with kind := some v })
    else (stringField s).map (Taken.map fun v => { draft with message := some v })
  isSet := fun name draft =>
    if name = "type" then draft.kind.isSome else draft.message.isSome

/-- A field that is null or an exception. -/
def exceptionField (depth : Nat) (s : List Char) : Reading (Option ExceptionInfo) s :=
  match h : skipBlanks s with
  | 'n' :: r => do
    let ⟨rest, hr⟩ ← expectWord ['u', 'l', 'l'] r
    .ok ⟨none, rest, Nat.lt_of_le_of_lt hr (length_of_skipBlanks h)⟩
  | _ => (shaped exceptionShape depth {} s).map (Taken.map fun draft => some draft.finish)

/-! ## Events -/

/-- The fields of an event that its text gives. -/
structure Draft where
  level : Option Level := none
  logger : Option String := none
  message : Option String := none
  exception : Option (Option ExceptionInfo) := none
  timestamp : Option DateTime := none
  properties : Option Json.Fields := none
  scopeProperties : Option Json.Fields := none

/-- The event of a draft. A level must be given; an event without a time happens `now`. -/
def Draft.finish? (draft : Draft) (now : DateTime) : Option Event :=
  draft.level.map fun level =>
    { level := level
      logger := draft.logger.getD ""
      message := draft.message.getD ""
      exception := draft.exception.getD none
      timestamp := draft.timestamp.getD now
      properties := draft.properties.getD []
      scopeProperties := draft.scopeProperties.getD [] }

def fieldNames : List String :=
  ["level", "logger", "message", "exception", "timestamp", "properties", "scope_properties"]

/-- Reads the field of a name, in an event whose own nesting leaves `depth`. -/
def readField (depth : Nat) (name : String) (draft : Draft) (s : List Char) : Reading Draft s :=
  match name with
  | "level" =>
    (parsedField Level.ofName? s).map (Taken.map fun v => { draft with level := some v })
  | "logger" => (stringField s).map (Taken.map fun v => { draft with logger := some v })
  | "message" => (stringField s).map (Taken.map fun v => { draft with message := some v })
  | "exception" =>
    (exceptionField depth s).map (Taken.map fun v => { draft with exception := some v })
  | "timestamp" =>
    (parsedField (fun t => DateTime.readRelaxed? t.toList) s).map
      (Taken.map fun v => { draft with timestamp := some v })
  | "properties" =>
    (objectField depth s).map (Taken.map fun v => { draft with properties := some v })
  | _ => (objectField depth s).map (Taken.map fun v => { draft with scopeProperties := some v })

def eventShape : Shape Draft where
  names := fieldNames
  read := readField (depthLimit - 1)
  isSet := fun name draft =>
    match name with
    | "level" => draft.level.isSome
    | "logger" => draft.logger.isSome
    | "message" => draft.message.isSome
    | "exception" => draft.exception.isSome
    | "timestamp" => draft.timestamp.isSome
    | "properties" => draft.properties.isSome
    | _ => draft.scopeProperties.isSome

/-- The fields of the one event that a text holds. That a level is given is asked before the rest
of the text is looked at. -/
def readDraft (s : List Char) : Except Json.Fault Draft := do
  let t ← shaped eventShape depthLimit {} s
  if t.value.level.isNone then .error .mismatch
  else if (skipBlanks t.rest).isEmpty then .ok t.value
  else .error .malformed

/-- The event that a text holds. -/
def read (now : DateTime) (s : List Char) : Except Json.Fault Event := do
  let draft ← readDraft s
  match draft.finish? now with
  | some event => .ok event
  | none => .error .mismatch

end LogFilter.Event
