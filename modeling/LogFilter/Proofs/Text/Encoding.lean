import LogFilter.Text.Utf8

/-!
# Texts that are read back from their bytes

Each character is read back from its one to four bytes, whatever follows them, so the bytes of a
text are that text and nothing is wrong with them: `decode_toUTF8`.
-/

namespace LogFilter.Text

/-- The character of a number that is its own. -/
theorem scalar?_of_eq {least n : Nat} {c : Char} (hn : n = c.toNat) (h : least ≤ c.toNat) :
    scalar? least n = some c := by
  subst hn
  have hvalid : c.toNat.isValidChar := c.valid
  rw [scalar?, dif_pos hvalid, if_pos h]
  exact congrArg some (Char.ext rfl)

theorem toNat_ofNat {n : Nat} (h : n < 256) : (UInt8.ofNat n).toNat = n := by
  rw [UInt8.toNat_ofNat']
  exact Nat.mod_eq_of_lt h

/-- The six bits of a continuation byte. -/
theorem continuation?_ofNat {n : Nat} (h : n < 64) :
    continuation? (UInt8.ofNat (n + 128)) = some n := by
  have hbyte := toNat_ofNat (show n + 128 < 256 by omega)
  have hrange : 0x80 ≤ UInt8.ofNat (n + 128) ∧ UInt8.ofNat (n + 128) < 0xC0 := by
    rw [UInt8.le_iff_toNat_le, UInt8.lt_iff_toNat_lt, hbyte]
    exact ⟨Nat.le_add_left 128 n, by simp only [UInt8.reduceToNat]; omega⟩
  rw [continuation?, if_pos hrange, hbyte]
  simp

/-- **A character is read back from its bytes**, whatever follows them. -/
theorem leading?_utf8EncodeChar (c : Char) (rest : List UInt8) :
    leading? (String.utf8EncodeChar c ++ rest) =
      some (c, (String.utf8EncodeChar c).length - 1) := by
  have hlt : c.toNat < 0x110000 := by
    rcases c.valid with h | ⟨-, h⟩
    · exact Nat.lt_trans h (by decide)
    · exact h
  have hval : c.val.toNat = c.toNat := rfl
  rw [String.utf8EncodeChar.eq_1, hval]
  split
  · next h1 =>
    have hfirst := toNat_ofNat (show c.toNat < 256 by omega)
    simp only [List.cons_append, List.nil_append, leading?, hfirst]
    rw [if_pos (by omega), scalar?_of_eq rfl (Nat.zero_le _)]
    rfl
  split
  · next h1 h2 =>
    have hfirst := toNat_ofNat (show c.toNat / 64 % 32 + 192 < 256 by omega)
    have hlast := continuation?_ofNat (show c.toNat % 64 < 64 by omega)
    simp only [List.cons_append, List.nil_append, leading?, hfirst, hlast, Option.bind_eq_bind,
      Option.bind_some]
    rw [if_neg (by omega), if_neg (by omega), if_pos (by omega),
      scalar?_of_eq (c := c) (by omega) (by omega)]
    rfl
  split
  · next h1 h2 h3 =>
    have hfirst := toNat_ofNat (show c.toNat / 4096 % 16 + 224 < 256 by omega)
    have hmiddle := continuation?_ofNat (show c.toNat / 64 % 64 < 64 by omega)
    have hlast := continuation?_ofNat (show c.toNat % 64 < 64 by omega)
    simp only [List.cons_append, List.nil_append, leading?, hfirst, hmiddle, hlast,
      Option.bind_eq_bind, Option.bind_some]
    rw [if_neg (by omega), if_neg (by omega), if_neg (by omega), if_pos (by omega),
      scalar?_of_eq (c := c) (by omega) (by omega)]
    rfl
  · next h1 h2 h3 =>
    have hfirst := toNat_ofNat (show c.toNat / 262144 % 8 + 240 < 256 by omega)
    have hsecond := continuation?_ofNat (show c.toNat / 4096 % 64 < 64 by omega)
    have hthird := continuation?_ofNat (show c.toNat / 64 % 64 < 64 by omega)
    have hlast := continuation?_ofNat (show c.toNat % 64 < 64 by omega)
    simp only [List.cons_append, List.nil_append, leading?, hfirst, hsecond, hthird, hlast,
      Option.bind_eq_bind, Option.bind_some]
    rw [if_neg (by omega), if_neg (by omega), if_neg (by omega), if_neg (by omega),
      if_pos (by omega), scalar?_of_eq (c := c) (by omega) (by omega)]
    rfl

theorem decode_utf8EncodeChar (c : Char) (rest : List UInt8) :
    decode (String.utf8EncodeChar c ++ rest) =
      ⟨c :: (decode rest).text, (decode rest).isBroken⟩ := by
  have hleading := leading?_utf8EncodeChar c rest
  obtain ⟨b, more, hbytes⟩ := List.exists_cons_of_ne_nil (String.utf8EncodeChar_ne_nil (c := c))
  rw [hbytes, List.cons_append] at hleading ⊢
  rw [decode, hleading]
  simp

theorem decode_flatMap_utf8EncodeChar (s : List Char) :
    decode (s.flatMap String.utf8EncodeChar) = ⟨s, false⟩ := by
  induction s with
  | nil => rw [List.flatMap_nil, decode]
  | cons c s ih => rw [List.flatMap_cons, decode_utf8EncodeChar, ih]

/-- **The bytes of a text are read as that text**, without any fault. -/
theorem decode_toUTF8 (s : String) : decode s.toUTF8.data.toList = ⟨s.toList, false⟩ := by
  have hbytes : s.toUTF8.data.toList = s.toList.flatMap String.utf8EncodeChar := by
    obtain ⟨l, rfl⟩ : ∃ l, s = String.ofList l := ⟨s.toList, String.ofList_toList.symm⟩
    rw [String.toUTF8_eq_toByteArray, String.toByteArray_ofList, String.toList_ofList,
      List.utf8Encode, List.data_toByteArray]
  rw [hbytes, decode_flatMap_utf8EncodeChar]

end LogFilter.Text
