import LogFilter.Json.Number
import LogFilter.Text.Hex

/-!
# Reading JSON values

Recursive descent over the text. `readValue` builds a value and allows a limited depth of nesting;
`skipValue` only passes over one, at any depth, and looks at numbers and escapes less closely:
no range, no pairing of surrogates.

## Termination

Text gets shorter from call to call; between a value and the elements or fields in it the second
component of the measure falls.
-/

namespace LogFilter.Json

open Text

/-! ## Strings -/

/-- The number that four hexadecimal digits stand for. -/
def hex4? (a b c d : Char) : Option Nat := do
  let a ← hexDigit? a
  let b ← hexDigit? b
  let c ← hexDigit? c
  let d ← hexDigit? d
  some (((a * 16 + b) * 16 + c) * 16 + d)

/-- The character of a one-letter escape. -/
def simpleEscape? (c : Char) : Option Char :=
  match c with
  | '"' => some '"'
  | '\\' => some '\\'
  | '/' => some '/'
  | 'b' => some '\x08'
  | 'f' => some '\x0c'
  | 'n' => some '\n'
  | 'r' => some '\r'
  | 't' => some '\t'
  | _ => none

def isHighSurrogate (n : Nat) : Bool := 0xD800 ≤ n && n < 0xDC00

def isLowSurrogate (n : Nat) : Bool := 0xDC00 ≤ n && n < 0xE000

/-- The character that a pair of surrogates stands for. -/
def pairedChar (high low : Nat) : Char := Char.ofNat (0x10000 + (high - 0xD800) * 1024 + (low - 0xDC00))

/-- The characters up to the closing quote and what follows it. -/
def stringBody : List Char → Except Fault (List Char × List Char)
  | [] => .error .malformed
  | '"' :: r => .ok ([], r)
  | '\\' :: 'u' :: a :: b :: c :: d :: r =>
    match hex4? a b c d with
    | none => .error .malformed
    | some n =>
      if isLowSurrogate n then .error .malformed
      else if isHighSurrogate n then
        match r with
        | '\\' :: 'u' :: a' :: b' :: c' :: d' :: r' =>
          match hex4? a' b' c' d' with
          | none => .error .malformed
          | some m =>
            if isLowSurrogate m then
              (stringBody r').map fun p => (pairedChar n m :: p.1, p.2)
            else .error .malformed
        | _ => .error .malformed
      else (stringBody r).map fun p => (Char.ofNat n :: p.1, p.2)
  | '\\' :: c :: r =>
    match simpleEscape? c with
    | none => .error .malformed
    | some d => (stringBody r).map fun p => (d :: p.1, p.2)
  | c :: r =>
    if c.toNat < 0x20 || c = '\\' then .error .malformed
    else (stringBody r).map fun p => (c :: p.1, p.2)

/-- What follows the closing quote of a string that is passed over. -/
def skipStringBody : List Char → Except Fault (List Char)
  | [] => .error .malformed
  | '"' :: r => .ok r
  | '\\' :: 'u' :: a :: b :: c :: d :: r =>
    match hex4? a b c d with
    | none => .error .malformed
    | some _ => skipStringBody r
  | '\\' :: c :: r =>
    match simpleEscape? c with
    | none => .error .malformed
    | some _ => skipStringBody r
  | c :: r => if c.toNat < 0x20 || c = '\\' then .error .malformed else skipStringBody r

theorem stringBody_shorter {s v r : List Char} (h : stringBody s = .ok (v, r)) :
    r.length < s.length := by
  fun_induction stringBody s generalizing v <;> simp_all [Except.map_eq_ok] <;> grind

theorem skipStringBody_shorter {s r : List Char} (h : skipStringBody s = .ok r) :
    r.length < s.length := by
  fun_induction skipStringBody s <;> simp_all <;> grind

/-- A string from which the opening quote has been taken. -/
def readString (s : List Char) : Reading String s :=
  match h : stringBody s with
  | .error e => .error e
  | .ok (cs, rest) => .ok ⟨String.ofList cs, rest, stringBody_shorter h⟩

/-- Passes over a string in the same place. -/
def skipString (s : List Char) : Reading Unit s :=
  match h : skipStringBody s with
  | .error e => .error e
  | .ok rest => .ok ⟨(), rest, skipStringBody_shorter h⟩

/-! ## Words -/

/-- The rest of one of the words `null`, `true` and `false` after its first letter, and what the
word stands for. -/
def word? (c : Char) : Option (List Char × Json) :=
  match c with
  | 'n' => some (['u', 'l', 'l'], .null)
  | 't' => some (['r', 'u', 'e'], .bool true)
  | 'f' => some (['a', 'l', 's', 'e'], .bool false)
  | _ => none

/-! ## Values -/

theorem length_of_skipBlanks {s r : List Char} {c : Char} (h : skipBlanks s = c :: r) :
    r.length < s.length := by
  have := length_skipBlanks_le s
  rw [h] at this
  exact this

/-- A reading of what follows blanks and one character as a reading of the text. -/
def afterBlanks {α : Type} {s r : List Char} {c : Char} (h : skipBlanks s = c :: r)
    (taken : Taken α r) : Taken α s :=
  taken.later (length_of_skipBlanks h)

/-- Blanks and one character, as what stands for a value. -/
def atBlanks {α : Type} {s r : List Char} {c : Char} (h : skipBlanks s = c :: r) (value : α) :
    Taken α s :=
  ⟨value, r, length_of_skipBlanks h⟩

/-- The name of a field, after blanks. -/
def readKey (s : List Char) : Reading String s :=
  match h : skipBlanks s with
  | '"' :: r => do
    let name ← readString r
    .ok (afterBlanks h name)
  | _ => .error .malformed

/-- The name of a field and the colon after it. -/
def readName (s : List Char) : Reading String s := do
  let name ← readKey s
  let ⟨rest, hr⟩ ← expectChar ':' name.rest
  .ok ⟨name.value, rest, Nat.lt_trans hr name.shorter⟩

mutual

/-- The value at the start of a text, with at most `depth - 1` arrays and objects around a value
in it. -/
def readValue (depth : Nat) (s : List Char) : Reading Json s :=
  match h : skipBlanks s with
  | [] => .error .malformed
  | c :: r =>
    have hr : r.length < s.length := length_of_skipBlanks h
    have hc : (c :: r).length ≤ s.length := hr
    match word? c with
    | some (word, value) => do
      let ⟨rest, hrest⟩ ← expectWord word r
      .ok ⟨value, rest, Nat.lt_of_le_of_lt hrest hr⟩
    | none =>
      if c = '"' then do
        let t ← readString r
        .ok ((t.map Json.string).later hr)
      else if c = '-' then do
        let t ← readNumber true r
        .ok ((t.map Json.number).later hr)
      else if c.isDigit then do
        let t ← readNumber false (c :: r)
        .ok ((t.map Json.number).weaken hc)
      else if c = '[' then
        if depth ≤ 1 then .error .malformed
        else do
          let t ← readItems (depth - 1) r
          .ok ((t.map Json.array).later hr)
      else if c = '\x7b' then
        if depth ≤ 1 then .error .malformed
        else do
          let t ← readFields (depth - 1) r
          .ok ((t.map Json.object).later hr)
      else .error .malformed
termination_by (s.length, 0)

/-- The elements of an array from which the opening bracket has been taken. -/
def readItems (depth : Nat) (s : List Char) : Reading (List Json) s :=
  match h : skipBlanks s with
  | ']' :: _ => .ok (atBlanks h [])
  | _ => readItemsFrom depth s
termination_by (s.length, 2)

/-- One or more elements and the closing bracket. -/
def readItemsFrom (depth : Nat) (s : List Char) : Reading (List Json) s := do
  let item ← readValue depth s
  have hi := item.shorter
  match h : skipBlanks item.rest with
  | ',' :: r =>
    have hr : r.length < s.length := Nat.lt_trans (length_of_skipBlanks h) hi
    let more ← readItemsFrom depth r
    .ok ⟨item.value :: more.value, more.rest, Nat.lt_trans more.shorter hr⟩
  | ']' :: r => .ok ⟨[item.value], r, Nat.lt_trans (length_of_skipBlanks h) hi⟩
  | _ => .error .malformed
termination_by (s.length, 1)

/-- The fields of an object from which the opening brace has been taken. -/
def readFields (depth : Nat) (s : List Char) : Reading Fields s :=
  match h : skipBlanks s with
  | '\x7d' :: _ => .ok (atBlanks h [])
  | _ => readFieldsFrom depth [] s
termination_by (s.length, 2)

/-- One or more fields, added to those of `fields`, and the closing brace. -/
def readFieldsFrom (depth : Nat) (fields : Fields) (s : List Char) : Reading Fields s := do
  let name ← readName s
  have hn := name.shorter
  let value ← readValue depth name.rest
  have hv := value.shorter
  let fields := fields.insert name.value value.value
  match h : skipBlanks value.rest with
  | ',' :: r =>
    have hr : r.length < s.length := by
      have := length_of_skipBlanks h
      omega
    let more ← readFieldsFrom depth fields r
    .ok ⟨more.value, more.rest, Nat.lt_trans more.shorter hr⟩
  | '\x7d' :: r => .ok ⟨fields, r, by
      have := length_of_skipBlanks h
      omega⟩
  | _ => .error .malformed
termination_by (s.length, 1)

end

/-! ## Values that are passed over -/

/-- A name and the colon after it, passed over. -/
def skipName (s : List Char) : Reading Unit s :=
  match h : skipBlanks s with
  | '"' :: r => do
    let name ← skipString r
    let ⟨rest, hr⟩ ← expectChar ':' name.rest
    .ok ⟨(), rest, by
      have := length_of_skipBlanks h
      have := name.shorter
      omega⟩
  | _ => .error .malformed

mutual

/-- Passes over the value at the start of a text. -/
def skipValue (s : List Char) : Reading Unit s :=
  match h : skipBlanks s with
  | [] => .error .malformed
  | c :: r =>
    have hr : r.length < s.length := length_of_skipBlanks h
    have hc : (c :: r).length ≤ s.length := hr
    match word? c with
    | some (word, _) => do
      let ⟨rest, hrest⟩ ← expectWord word r
      .ok ⟨(), rest, Nat.lt_of_le_of_lt hrest hr⟩
    | none =>
      if c = '"' then do
        let t ← skipString r
        .ok (t.later hr)
      else if c = '-' then do
        let t ← skipNumber r
        .ok (t.later hr)
      else if c.isDigit then do
        let t ← skipNumber (c :: r)
        .ok (t.weaken hc)
      else if c = '[' then
        match h' : skipBlanks r with
        | ']' :: _ => .ok ((atBlanks h' ()).later hr)
        | _ => do
          let t ← skipItems r
          .ok (t.later hr)
      else if c = '\x7b' then
        match h' : skipBlanks r with
        | '\x7d' :: _ => .ok ((atBlanks h' ()).later hr)
        | _ => do
          let t ← skipFields r
          .ok (t.later hr)
      else .error .malformed
termination_by (s.length, 0)

/-- Passes over one or more elements and the closing bracket. -/
def skipItems (s : List Char) : Reading Unit s := do
  let item ← skipValue s
  have hi := item.shorter
  match h : skipBlanks item.rest with
  | ',' :: r =>
    have hr : r.length < s.length := Nat.lt_trans (length_of_skipBlanks h) hi
    let more ← skipItems r
    .ok ⟨(), more.rest, Nat.lt_trans more.shorter hr⟩
  | ']' :: r => .ok ⟨(), r, Nat.lt_trans (length_of_skipBlanks h) hi⟩
  | _ => .error .malformed
termination_by (s.length, 1)

/-- Passes over one or more fields and the closing brace. -/
def skipFields (s : List Char) : Reading Unit s := do
  let name ← skipName s
  have hn := name.shorter
  let value ← skipValue name.rest
  have hv := value.shorter
  match h : skipBlanks value.rest with
  | ',' :: r =>
    have hr : r.length < s.length := by
      have := length_of_skipBlanks h
      omega
    let more ← skipFields r
    .ok ⟨(), more.rest, Nat.lt_trans more.shorter hr⟩
  | '\x7d' :: r => .ok ⟨(), r, by
      have := length_of_skipBlanks h
      omega⟩
  | _ => .error .malformed
termination_by (s.length, 1)

end

/-! ## Whole texts -/

/-- How many arrays and objects may be open at once, and one. -/
def depthLimit : Nat := 128

/-- The value of a text that holds one value and blanks, with fewer than `depth` arrays and objects
open at once. -/
def parseWithin (depth : Nat) (s : List Char) : Except Fault Json := do
  let value ← readValue depth s
  if (skipBlanks value.rest).isEmpty then .ok value.value else .error .malformed

/-- The value of a text that holds one value and blanks. -/
def parse (s : List Char) : Except Fault Json := parseWithin depthLimit s

end LogFilter.Json
