import LogFilter.Event.Reader
import LogFilter.Proofs.Json.Normal

/-!
# What the readers of events take

The texts from which the fields of an event are read, and what the reading of one field preserves:
the properties of an event that is read are normal (`isNormal_of_read`).
-/

namespace LogFilter.Event

open Json Text

variable {α β δ : Type} {s rest : List Char}

/-! ## Fields -/

theorem not_gives_bind_error {step : Except Fault β} {fault : Fault} {value : α} :
    ¬Gives (step >>= fun _ => (.error fault : Reading α s)) value rest := by
  rintro ⟨h, heq⟩
  obtain ⟨_, -, herror⟩ := Except.bind_eq_ok.1 heq
  cases herror

/-- A value of another shape is never taken. -/
theorem not_gives_refuse {value : α} : ¬Gives (refuse s : Reading α s) value rest := by
  unfold refuse
  split
  · exact not_gives_error
  split
  · exact not_gives_bind_error
  split
  · exact not_gives_bind_error
  split
  · exact not_gives_bind_error
  split
  · exact not_gives_bind_error
  split
  · exact not_gives_error
  · exact not_gives_error

theorem gives_stringField_iff {text : String} :
    Gives (stringField s) text rest ↔
      ∃ r, skipBlanks s = '"' :: r ∧ Gives (readString r) text rest := by
  unfold stringField
  split
  · next r hs =>
    rw [gives_afterBlanks_iff hs, hs]
    simp
  · next hne =>
    refine ⟨fun h => absurd h not_gives_refuse, ?_⟩
    rintro ⟨r, hs, -⟩
    exact absurd hs (hne r)

theorem gives_parsedField_iff {f : String → Option α} {value : α} :
    Gives (parsedField f s) value rest ↔
      ∃ text, Gives (stringField s) text rest ∧ f text = some value := by
  unfold parsedField
  rw [gives_bind_iff]
  constructor
  · rintro ⟨text, mid, hlt, htext, h⟩
    dsimp only at h
    split at h
    · next v hv =>
      obtain ⟨rfl, rfl⟩ := gives_ok_iff.1 h
      exact ⟨text, ⟨hlt, htext⟩, hv⟩
    · exact absurd h not_gives_error
  · rintro ⟨text, ⟨hlt, htext⟩, hvalue⟩
    refine ⟨text, rest, hlt, htext, ?_⟩
    dsimp only
    rw [hvalue]
    exact gives_ok_iff.2 ⟨rfl, rfl⟩

theorem gives_objectField_iff {depth : Nat} {fields : Fields} :
    Gives (objectField depth s) fields rest ↔
      ∃ r, skipBlanks s = '\x7b' :: r ∧ 1 < depth ∧ Gives (readFields (depth - 1) r) fields rest := by
  unfold objectField
  split
  · next r hs =>
    split
    · next hdepth =>
      refine ⟨fun h => absurd h not_gives_error, ?_⟩
      rintro ⟨_, -, hlt, -⟩
      omega
    · next hdepth =>
      rw [gives_afterBlanks_iff hs, hs]
      simpa using fun _ => Nat.lt_of_not_le hdepth
  · next hne =>
    refine ⟨fun h => absurd h not_gives_refuse, ?_⟩
    rintro ⟨r, hs, -⟩
    exact absurd hs (hne r)

/-! ## Shapes -/

/-- A reading of a field of a name that the shape has, or the passing over one that it has not. -/
def readOrSkip (shape : Shape δ) (name : String) (draft : δ) (s : List Char) : Reading δ s :=
  if shape.names.contains name then shape.read name draft s
  else (skipValue s).map (Taken.map fun _ => draft)

theorem gives_namedFields_iff {shape : Shape δ} {draft result : δ} :
    Gives (namedFields shape draft s) result rest ↔
      ∃ name afterKey afterColon value mid, Gives (readKey s) name afterKey ∧
        ¬(shape.names.contains name && shape.isSet name draft) = true ∧
        skipBlanks afterKey = ':' :: afterColon ∧
        Gives (readOrSkip shape name draft afterColon) value mid ∧
        ((∃ r, skipBlanks mid = ',' :: r ∧ Gives (namedFields shape value r) result rest) ∨
          skipBlanks mid = '\x7d' :: rest ∧ result = value) := by
  rw [namedFields, gives_bind_iff]
  constructor
  · rintro ⟨name, afterKey, hlt, hkey, h⟩
    dsimp only at h
    split at h
    · exact absurd h not_gives_error
    next hset =>
    obtain ⟨hlt', heq⟩ := h
    obtain ⟨⟨afterColon, hc⟩, hcolon, heq⟩ := Except.bind_eq_ok.1 heq
    -- what comes after the value does not depend on whether the name is known
    split at heq
    all_goals
      rename_i hknown
      obtain ⟨⟨value, mid, hmid⟩, hread, heq⟩ := Except.bind_eq_ok.1 heq
      have hvalue : Gives (readOrSkip shape name draft afterColon) value mid := by
        refine ⟨hmid, ?_⟩
        simp only [readOrSkip, hknown, ↓reduceIte]
        exact hread
      refine ⟨name, afterKey, afterColon, value, mid, ⟨hlt, hkey⟩, hset,
        expectChar_eq_ok_iff.1 ⟨hc, hcolon⟩, hvalue, ?_⟩
      rcases gives_afterField_iff.1 ⟨hlt', heq⟩ with ⟨r, hs, h⟩ | ⟨r, hs, h⟩
      · obtain ⟨more, _, hlt'', hmore, hok⟩ := gives_bind_iff.1 h
        obtain ⟨rfl, rfl⟩ := gives_ok_iff.1 hok
        exact .inl ⟨r, hs, hlt'', hmore⟩
      · obtain ⟨rfl, rfl⟩ := gives_ok_iff.1 h
        exact .inr ⟨hs, rfl⟩
  · rintro ⟨name, afterKey, afterColon, value, mid, ⟨hlt, hkey⟩, hset, hcolon, ⟨hmid, hvalue⟩, h⟩
    obtain ⟨hc, hcolon⟩ := expectChar_eq_ok_iff.2 hcolon
    refine ⟨name, afterKey, hlt, hkey, ?_⟩
    dsimp only
    rw [if_neg hset, hcolon, Except.ok_bind]
    by_cases hknown : shape.names.contains name = true
    all_goals
      simp only [readOrSkip, hknown, ↓reduceIte] at hvalue
      simp only [hknown, ↓reduceIte]
      refine gives_bind_iff.2 ⟨value, mid, hmid, hvalue, gives_afterField_iff.2 ?_⟩
      rcases h with ⟨r, hs, ⟨hlt, hmore⟩⟩ | ⟨hs, rfl⟩
      · exact .inl ⟨r, hs, gives_bind_iff.2 ⟨result, rest, hlt, hmore, gives_ok_iff.2 ⟨rfl, rfl⟩⟩⟩
      · exact .inr ⟨rest, hs, gives_ok_iff.2 ⟨rfl, rfl⟩⟩

/-- What holds of a draft and is kept by every field that is read into it. -/
def Shape.Keeps (shape : Shape δ) (P : δ → Prop) : Prop :=
  ∀ {name draft s value rest}, P draft → Gives (shape.read name draft s) value rest → P value

section

variable {shape : Shape δ} {P : δ → Prop} {draft result : δ}

theorem Shape.Keeps.readOrSkip (hkeeps : shape.Keeps P) (hdraft : P draft) {name : String}
    (h : Gives (readOrSkip shape name draft s) result rest) : P result := by
  unfold Event.readOrSkip at h
  split at h
  · exact hkeeps hdraft h
  · obtain ⟨_, _, rfl⟩ := gives_map_iff.1 h
    exact hdraft

theorem Shape.Keeps.namedFields (hkeeps : shape.Keeps P) (hdraft : P draft)
    (h : Gives (namedFields shape draft s) result rest) : P result := by
  induction hn : s.length using Nat.strongRecOn generalizing s draft with
  | ind n ih =>
    obtain ⟨name, afterKey, afterColon, value, mid, hkey, -, hcolon, hvalue, h⟩ :=
      gives_namedFields_iff.1 h
    have hafter := hkeeps.readOrSkip hdraft hvalue
    rcases h with ⟨r, hs, hmore⟩ | ⟨-, rfl⟩
    · have hlt : r.length < s.length :=
        length_afterField hkey.length_lt (length_of_skipBlanks hcolon) hvalue.length_lt hs
      exact ih r.length (hn ▸ hlt) hafter hmore rfl
    · exact hafter

theorem Shape.Keeps.listedFields (hkeeps : shape.Keeps P) {names : List String} (hdraft : P draft)
    (h : Gives (listedFields shape names draft s) result rest) : P result := by
  induction names generalizing draft s with
  | nil => exact absurd h not_gives_error
  | cons name names ih =>
    rw [Event.listedFields] at h
    obtain ⟨value, mid, hlt, hvalue, h⟩ := gives_bind_iff.1 h
    have hafter := hkeeps hdraft ⟨hlt, hvalue⟩
    rcases gives_afterItem_iff.1 h with ⟨r, hs, h⟩ | ⟨r, hs, h⟩
    · obtain ⟨more, _, hlt', hmore, hok⟩ := gives_bind_iff.1 h
      obtain ⟨rfl, rfl⟩ := gives_ok_iff.1 hok
      exact ih hafter ⟨hlt', hmore⟩
    · obtain ⟨rfl, -⟩ := gives_ok_iff.1 h
      exact hafter

theorem Shape.Keeps.shaped (hkeeps : shape.Keeps P) {depth : Nat} {empty : δ} (hempty : P empty)
    (h : Gives (shaped shape depth empty s) result rest) : P result := by
  unfold Event.shaped at h
  split at h
  · next r hs =>
    split at h
    · exact absurd h not_gives_error
    split at h
    · obtain ⟨rfl, -⟩ := gives_ok_iff.1 h
      exact hempty
    · exact hkeeps.namedFields hempty ((gives_afterBlanks_iff hs).1 h)
  · next r hs =>
    split at h
    · exact absurd h not_gives_error
    split at h
    · obtain ⟨rfl, -⟩ := gives_ok_iff.1 h
      exact hempty
    · exact hkeeps.listedFields hempty ((gives_afterBlanks_iff hs).1 h)
  · exact absurd h not_gives_refuse

/-- An object with fields is read field by field. -/
theorem gives_shaped_of_namedFields {depth : Nat} {empty : δ} {r : List Char}
    (hs : skipBlanks s = '\x7b' :: r) (hdepth : 1 < depth)
    (h : Gives (namedFields shape empty r) result rest) :
    Gives (shaped shape depth empty s) result rest := by
  obtain ⟨_, _, _, _, _, hkey, -⟩ := gives_namedFields_iff.1 h
  obtain ⟨_, hquote, -⟩ := gives_readKey_iff.1 hkey
  unfold Event.shaped
  split
  · next r' hs' =>
    obtain rfl : r = r' := (List.cons.inj (hs.symm.trans hs')).2
    rw [if_neg (Nat.not_le_of_lt hdepth)]
    split
    · next hend => exact absurd (hquote.symm.trans hend) (by simp)
    · exact (gives_afterBlanks_iff hs').2 h
  · next hs' => exact absurd (hs.symm.trans hs') (by simp)
  · next hne _ => exact absurd hs (hne r)

end

/-! ## Events -/

/-- The fields of an event are read if the text ends after a shape with a level. -/
theorem readDraft_eq_ok_iff {draft : Draft} :
    readDraft s = .ok draft ↔
      ∃ rest, Gives (shaped eventShape depthLimit {} s) draft rest ∧ skipBlanks rest = [] ∧
        draft.level.isSome = true := by
  constructor
  · intro h
    obtain ⟨⟨read, rest, hlt⟩, hshaped, hend⟩ := Except.bind_eq_ok.1 h
    dsimp only at hend
    split at hend
    · cases hend
    next hlevel =>
    split at hend
    · next hblank =>
      cases hend
      refine ⟨rest, ⟨hlt, hshaped⟩, List.isEmpty_iff.1 hblank, ?_⟩
      simpa [Option.isSome_iff_ne_none] using hlevel
    · cases hend
  · rintro ⟨rest, ⟨hlt, hshaped⟩, hblank, hlevel⟩
    refine Except.bind_eq_ok.2 ⟨_, hshaped, ?_⟩
    have hnone : ¬draft.level.isNone = true := by simpa [Option.isSome_iff_ne_none] using hlevel
    dsimp only
    rw [if_neg hnone, if_pos (List.isEmpty_iff.2 hblank)]

theorem read_eq_ok_iff {now : DateTime} {event : Event} :
    read now s = .ok event ↔
      ∃ draft, readDraft s = .ok draft ∧ draft.finish? now = some event := by
  constructor
  · intro h
    obtain ⟨draft, hdraft, hfinish⟩ := Except.bind_eq_ok.1 h
    refine ⟨draft, hdraft, ?_⟩
    split at hfinish
    · next hevent =>
      cases hfinish
      exact hevent
    · cases hfinish
  · rintro ⟨draft, hdraft, hfinish⟩
    refine Except.bind_eq_ok.2 ⟨draft, hdraft, ?_⟩
    rw [hfinish]

/-- Properties as they are read in an event: an event takes one level of nesting, and its
properties another one. -/
def Draft.IsNormal (draft : Draft) : Prop :=
  (∀ fields ∈ draft.properties, Fields.IsNormal (depthLimit - 2) fields) ∧
    ∀ fields ∈ draft.scopeProperties, Fields.IsNormal (depthLimit - 2) fields

theorem isNormal_of_objectField {depth : Nat} {fields : Fields}
    (h : Gives (objectField depth s) fields rest) : Fields.IsNormal (depth - 1) fields := by
  obtain ⟨r, -, -, hfields⟩ := gives_objectField_iff.1 h
  exact isNormal_of_readFields hfields

theorem keeps_isNormal : eventShape.Keeps Draft.IsNormal := by
  intro name draft s value rest hdraft h
  obtain ⟨hproperties, hscope⟩ := hdraft
  simp only [eventShape] at h
  unfold readField at h
  split at h
  all_goals obtain ⟨part, hpart, rfl⟩ := gives_map_iff.1 h
  -- only the last two fields are properties
  · exact ⟨hproperties, hscope⟩
  · exact ⟨hproperties, hscope⟩
  · exact ⟨hproperties, hscope⟩
  · exact ⟨hproperties, hscope⟩
  · exact ⟨hproperties, hscope⟩
  · refine ⟨?_, hscope⟩
    rintro _ ⟨⟩
    exact isNormal_of_objectField hpart
  · refine ⟨hproperties, ?_⟩
    rintro _ ⟨⟩
    exact isNormal_of_objectField hpart

theorem Draft.isNormal_empty : Draft.IsNormal {} := ⟨by simp, by simp⟩

/-- **The properties of an event that is read are normal.** -/
theorem isNormal_of_read {now : DateTime} {event : Event} (h : read now s = .ok event) :
    Fields.IsNormal (depthLimit - 2) event.properties ∧
      Fields.IsNormal (depthLimit - 2) event.scopeProperties := by
  obtain ⟨draft, hdraft, hfinish⟩ := read_eq_ok_iff.1 h
  obtain ⟨rest, hshaped, -⟩ := readDraft_eq_ok_iff.1 hdraft
  obtain ⟨hproperties, hscope⟩ := keeps_isNormal.shaped Draft.isNormal_empty hshaped
  obtain ⟨level, -, rfl⟩ := Option.map_eq_some_iff.1 hfinish
  constructor
  · dsimp only
    cases hfields : draft.properties with
    | none => exact Fields.isNormal_nil _
    | some fields => exact hproperties fields hfields
  · dsimp only
    cases hfields : draft.scopeProperties with
    | none => exact Fields.isNormal_nil _
    | some fields => exact hscope fields hfields

end LogFilter.Event
