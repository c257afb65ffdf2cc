import LogFilter.Toml.Basic
import LogFilter.Toml.Scalar

/-!
# Reading TOML

A document is read line by line. A text that is no document is refused without a reason.

## Termination

Every value and every line takes at least one character.
-/

namespace LogFilter.Toml

open Text

/-- How deeply arrays and tables in braces may be nested, and how many parts a key may have. -/
def depthLimit : Nat := 79

/-! ## What can stand between values -/

def skipSpaces (s : List Char) : List Char := s.dropWhile isSpace

theorem length_skipSpaces_le (s : List Char) : (skipSpaces s).length ≤ s.length :=
  length_dropWhile_le _ s

/-- A text from the end of the comment that it may start with. -/
def skipComment (s : List Char) : List Char :=
  match s with
  | '#' :: r => r.dropWhile isCommentChar
  | s => s

theorem length_skipComment_le (s : List Char) : (skipComment s).length ≤ s.length := by
  unfold skipComment
  split
  · exact Nat.le_succ_of_le (length_dropWhile_le _ _)
  · exact Nat.le_refl _

/-- A text without the blanks, comments and line ends at its start. A comment that no line end
follows is left. -/
def skipLayout (s : List Char) : List Char :=
  match afterLineEnd? (skipComment (skipSpaces s)) with
  | some ⟨r, _⟩ => skipLayout r
  | none => skipSpaces s
termination_by s.length
decreasing_by
  have := length_skipComment_le (skipSpaces s)
  have := length_skipSpaces_le s
  omega

theorem length_skipLayout_le (s : List Char) : (skipLayout s).length ≤ s.length := by
  fun_induction skipLayout s with
  | case1 s r hr _ ih =>
    have := length_skipComment_le (skipSpaces s)
    have := length_skipSpaces_le s
    omega
  | case2 s _ => exact length_skipSpaces_le s

theorem length_skipCommentSpaces_le (s : List Char) :
    (skipComment (skipSpaces s)).length ≤ s.length :=
  Nat.le_trans (length_skipComment_le _) (length_skipSpaces_le s)

/-- The lines after the one whose value was read, if nothing more stands on that. -/
def afterLine? (s : List Char) : Option (Rest s) :=
  match skipComment (skipSpaces s), length_skipCommentSpaces_le s with
  | [], _ => some ⟨[], Nat.zero_le _⟩
  | c :: r, h => (afterLineEnd? (c :: r)).map fun next => next.within h

/-- The rest of a text after blanks and a character. -/
def expect (c : Char) (s : List Char) : Option (ShorterRest s) :=
  match skipSpaces s, length_skipSpaces_le s with
  | [], _ => none
  | d :: r, h => if c = d then some ⟨r, h⟩ else none

/-! ## Keys -/

/-- A part of a key: a string on one line, or letters, digits, hyphens and underscores. -/
def readKeyPart (s : List Char) : Reading String s :=
  match s with
  | '"' :: r => (readLineString '"' true [] r).map Taken.afterFirst
  | '\'' :: r => (readLineString '\'' false [] r).map Taken.afterFirst
  | c :: r =>
    if isBareKeyChar c then
      let rest : Rest r := ⟨r.dropWhile isBareKeyChar, length_dropWhile_le isBareKeyChar r⟩
      some (.of (String.ofList (c :: r.takeWhile isBareKeyChar)) rest.afterFirst)
    else none
  | [] => none

/-- The parts of a key, with dots between them. -/
def readKeyParts (s : List Char) : Reading (List String) s := do
  let part ← readKeyPart (skipSpaces s)
  have hp := part.shorter
  have hs := length_skipSpaces_le s
  match expect '.' part.rest with
  | some ⟨r, hr⟩ =>
    let more ← readKeyParts r
    some ((more.map (part.value :: ·)).weaken (by omega))
  | none => some ((part.map fun key => [key]).weaken hs)
termination_by s.length
decreasing_by
  have := part.shorter
  have := length_skipSpaces_le s
  omega

/-- A key of not too many parts. -/
def readKey (s : List Char) : Reading Key s := do
  let parts ← readKeyParts s
  match parts.value.reverse with
  | last :: before =>
    if parts.value.length ≤ depthLimit then some (parts.map fun _ => ⟨before.reverse, last⟩)
    else none
  | [] => none

/-! ## Values -/

theorem length_of_skipLayout {s r : List Char} {c : Char} (h : skipLayout s = c :: r) :
    r.length < s.length := by
  have := length_skipLayout_le s
  rw [h] at this
  exact this

/-- What is left after an item of an array and one character more. -/
theorem length_afterItem {α : Type} {s r t : List Char} {c d : Char} (hr : r.length < s.length)
    (item : Taken α (c :: r)) (h : skipLayout item.rest = d :: t) : t.length < s.length := by
  have hi := item.shorter
  have ht := length_of_skipLayout h
  rw [List.length_cons] at hi
  omega

mutual

/-- A value in which so many more levels may be nested. -/
def readValue (depth : Nat) (s : List Char) : Reading Toml s :=
  match s with
  | [] => none
  | c :: r =>
    if c = '[' then
      if depth = 0 then none
      else ((readItems (depth - 1) r).map (Taken.map Toml.array)).map Taken.afterFirst
    else if c = '\x7b' then
      if depth = 0 then none
      else do
        let entries ← readEntries (depth - 1) r
        some ((entries.map fun e => Toml.table (entriesToToml e)).afterFirst)
    else if c = '"' ∨ c = '\'' then (readString (c :: r)).map (Taken.map Toml.string)
    else
      match h : afterScalar? (c :: r) with
      | some rest => some ⟨.scalar, rest, length_afterScalar? h⟩
      | none => none
termination_by 2 * s.length

/-- The items of an array without its first bracket. -/
def readItems (depth : Nat) (s : List Char) : Reading (List Toml) s :=
  match h : skipLayout s with
  | [] => none
  | c :: r =>
    have hr : r.length < s.length := length_of_skipLayout h
    if c = ']' then some ⟨[], r, hr⟩
    else do
      let item ← readValue depth (c :: r)
      match h' : skipLayout item.rest with
      | ',' :: t => do
        have ht : t.length < s.length := length_afterItem hr item h'
        let more ← readItems depth t
        some ((more.map (item.value :: ·)).later ht)
      | ']' :: t => some ⟨[item.value], t, length_afterItem hr item h'⟩
      | _ => none
termination_by 2 * s.length + 1
decreasing_by
  · simp only [List.length_cons]
    omega
  · omega

/-- A table in braces without its first brace. -/
def readEntries (depth : Nat) (s : List Char) : Reading Entries s :=
  match expect '\x7d' s with
  | some ⟨r, h⟩ => some ⟨[], r, h⟩
  | none => readMoreEntries depth [] s
termination_by 2 * s.length + 1

/-- One or more entries and the last brace of a table in braces, after some entries. -/
def readMoreEntries (depth : Nat) (entries : Entries) (s : List Char) : Reading Entries s := do
  let key ← readKey s
  have hk := key.shorter
  let ⟨afterSign, hsign⟩ ← expect '=' key.rest
  have hspaces := length_skipSpaces_le afterSign
  let value ← readValue depth (skipSpaces afterSign)
  have hv := value.shorter
  let entries ← entries.assign? key.value.path key.value.last value.value .header
  match expect ',' value.rest with
  | some ⟨r, hr⟩ => do
    let more ← readMoreEntries depth entries r
    some (more.weaken (by omega))
  | none => do
    let ⟨r, hr⟩ ← expect '\x7d' value.rest
    some ⟨entries, r, by omega⟩
termination_by 2 * s.length

end

/-! ## Lines -/

/-- A header without its first bracket. -/
def readHeader (s : List Char) : Reading Statement s :=
  match s with
  | '[' :: r => do
    let key ← readKey r
    have hk := key.shorter
    let ⟨t, ht⟩ ← expect ']' key.rest
    match h : t with
    | ']' :: u =>
      some ⟨.openTables key.value, u, by
        rw [h] at ht
        simp only [List.length_cons] at *
        omega⟩
    | _ => none
  | s => do
    let key ← readKey s
    have hk := key.shorter
    let ⟨t, ht⟩ ← expect ']' key.rest
    some ⟨.openTable key.value, t, by omega⟩

/-- A key, an equals sign and a value. -/
def readAssignment (s : List Char) : Reading Statement s := do
  let key ← readKey s
  have hk := key.shorter
  let ⟨afterSign, hsign⟩ ← expect '=' key.rest
  have hspaces := length_skipSpaces_le afterSign
  let value ← readValue depthLimit (skipSpaces afterSign)
  have hv := value.shorter
  some ⟨.assign key.value value.value, value.rest, by omega⟩

/-- A line that says something. -/
def readStatement (s : List Char) : Reading Statement s :=
  match s with
  | '[' :: r => (readHeader r).map Taken.afterFirst
  | s => readAssignment s

/-- The document that begins with some lines, followed by those of a text. -/
def readLines (document : Document) (s : List Char) : Option Document :=
  match skipLayout s, length_skipLayout_le s with
  | [], _ => some document
  | '#' :: r, _ => if (r.dropWhile isCommentChar).isEmpty then some document else none
  | c :: r, _hs => do
    let statement ← readStatement (c :: r)
    have _h := statement.shorter
    let ⟨rest, _hr⟩ ← afterLine? statement.rest
    let document ← document.add? statement.value
    readLines document rest
termination_by s.length
decreasing_by omega

/-- The entries of the document that a text is. A byte order mark may stand before it. -/
def read? (s : List Char) : Option (List (String × Toml)) :=
  let body := match s with
    | '\ufeff' :: r => r
    | s => s
  (readLines .empty body).map fun document => entriesToToml document.root

end LogFilter.Toml
