/-!
# Texts as bytes

The length of a text in UTF-8, in which positions are counted, and the text that a file holds. Bytes
that are no UTF-8 end the text of a file; what comes before them is still read.

## Termination

`decode` goes on with the bytes after the first character, which are fewer.
-/

namespace LogFilter.Text

/-- The length of a text in UTF-8. -/
def utf8Length (s : List Char) : Nat := s.foldr (fun c n => c.utf8Size + n) 0

@[simp]
theorem utf8Length_nil : utf8Length [] = 0 := rfl

@[simp]
theorem utf8Length_cons (c : Char) (s : List Char) :
    utf8Length (c :: s) = c.utf8Size + utf8Length s := rfl

@[simp]
theorem utf8Length_append (s t : List Char) : utf8Length (s ++ t) = utf8Length s + utf8Length t := by
  induction s with
  | nil => simp
  | cons c r ih => simp [ih, Nat.add_assoc]

theorem utf8Length_eq_utf8ByteSize (s : List Char) :
    utf8Length s = (String.ofList s).utf8ByteSize := by
  induction s with
  | nil => rfl
  | cons c r ih =>
    rw [String.ofList_cons, String.utf8ByteSize_append, String.utf8ByteSize_singleton, ← ih]
    rfl

/-- The six bits that a continuation byte carries. -/
def continuation? (b : UInt8) : Option Nat :=
  if 0x80 ≤ b ∧ b < 0xC0 then some (b.toNat - 0x80) else none

/-- The character of a number that must be at least `least`, because fewer bytes hold smaller ones. -/
def scalar? (least n : Nat) : Option Char :=
  if h : n.isValidChar then if least ≤ n then some (Char.ofNatAux n h) else none else none

/-- The character that the bytes start with, and how many bytes follow its first one. -/
def leading? : List UInt8 → Option (Char × Nat)
  | [] => none
  | b :: rest =>
    let n := b.toNat
    if n < 0x80 then (scalar? 0 n).map (·, 0)
    else if n < 0xC0 then none
    else if n < 0xE0 then
      match rest with
      | c :: _ => do
        let c ← continuation? c
        (scalar? 0x80 ((n - 0xC0) * 64 + c)).map (·, 1)
      | _ => none
    else if n < 0xF0 then
      match rest with
      | c :: d :: _ => do
        let c ← continuation? c
        let d ← continuation? d
        (scalar? 0x800 (((n - 0xE0) * 64 + c) * 64 + d)).map (·, 2)
      | _ => none
    else if n < 0xF8 then
      match rest with
      | c :: d :: e :: _ => do
        let c ← continuation? c
        let d ← continuation? d
        let e ← continuation? e
        (scalar? 0x10000 ((((n - 0xF0) * 64 + c) * 64 + d) * 64 + e)).map (·, 3)
      | _ => none
    else none

/-- The text that the bytes of a file hold. -/
structure Contents where
  text : List Char
  /-- Whether bytes that are no UTF-8 come after the text. -/
  isBroken : Bool

/-- The longest text with which the bytes start. -/
def decode (bytes : List UInt8) : Contents :=
  match bytes with
  | [] => ⟨[], false⟩
  | b :: rest =>
    match leading? (b :: rest) with
    | none => ⟨[], true⟩
    | some (c, n) =>
      let more := decode (rest.drop n)
      ⟨c :: more.text, more.isBroken⟩
termination_by bytes.length
decreasing_by
  simp only [List.length_drop, List.length_cons]
  omega

end LogFilter.Text
