import Mathlib.Data.List.Basic
import LogFilter.Text.Lowercase

/-!
# Lower case within a text

A part of a text has the lower case that it has alone, but for its capital sigmas: whether one gets
the final form depends on what stands around it. So the lower case of a part within the text is that
of the part alone if and only if all its sigmas keep their forms
(`lowerBetween_eq_lower_iff`). Only the sigmas at its edges can change
(`sigmasKept_of_edges`).
-/

namespace LogFilter.Text

/-! ## Characters around a sigma -/

/-- The first character that is not case-ignorable. -/
def edge (s : List Char) : Option Char := s.find? fun c => !caseIgnorableTable.covers c.toNat

theorem edge_append (s t : List Char) : edge (s ++ t) = (edge s).or (edge t) := List.find?_append

theorem edge_reverse_eq_none_iff {s : List Char} : edge s.reverse = none ↔ edge s = none := by
  simp [edge, List.find?_eq_none]

theorem edge_sigma (s : List Char) : edge ('Σ' :: s) = some 'Σ' :=
  List.find?_cons_of_pos (by decide +kernel)

theorem casedComesFirst_eq (s : List Char) :
    casedComesFirst s = (edge s).any fun c => casedTable.covers c.toNat := by
  unfold casedComesFirst edge
  induction s with
  | nil => rfl
  | cons c r ih => cases h : caseIgnorableTable.covers c.toNat <;> simp_all

/-- Behind a character that counts, nothing is looked at. -/
theorem casedComesFirst_append {s : List Char} (h : edge s ≠ none) (t : List Char) :
    casedComesFirst (s ++ t) = casedComesFirst s := by
  obtain ⟨c, hc⟩ := Option.ne_none_iff_exists'.1 h
  rw [casedComesFirst_eq, casedComesFirst_eq, edge_append, hc, Option.some_or]

/-- The form of a capital sigma between two texts, of which the first is in reverse order. -/
def sigmaBetween (before after : List Char) : Char :=
  if casedComesFirst before && !casedComesFirst after then 'ς' else 'σ'

/-- A sigma has its form from the next characters that count. -/
theorem sigmaBetween_append {before after : List Char} (hb : edge before ≠ none)
    (ha : edge after ≠ none) (farBefore farAfter : List Char) :
    sigmaBetween (before ++ farBefore) (after ++ farAfter) = sigmaBetween before after := by
  rw [sigmaBetween, casedComesFirst_append hb, casedComesFirst_append ha, sigmaBetween]

/-! ## Parts of a text -/

/-- The lower case of a character between two texts, of which the first is in reverse order. -/
def imageBetween (before after : List Char) (c : Char) : List Char :=
  if c = 'Σ' then [sigmaBetween before after] else lowerChar c

/-- The lower case of a text between two others, of which the first is in reverse order. -/
def lowerBetween (before after : List Char) : List Char → List Char
  | [] => []
  | c :: r => imageBetween before (r ++ after) c ++ lowerBetween (c :: before) after r

theorem lowerAfter_eq (before s : List Char) : lowerAfter before s = lowerBetween before [] s := by
  induction s generalizing before with
  | nil => rfl
  | cons c r ih =>
    rw [lowerAfter, lowerBetween, ih, imageBetween, sigmaBetween, List.append_nil]
    split <;> rename_i hc
    · cases hs : casedComesFirst before && !casedComesFirst r <;> simp_all
    · simp

theorem lower_eq (s : List Char) : lower s = lowerBetween [] [] s := lowerAfter_eq [] s

theorem lowerBetween_append (before after s t : List Char) :
    lowerBetween before after (s ++ t) =
      lowerBetween before (t ++ after) s ++ lowerBetween (s.reverse ++ before) after t := by
  induction s generalizing before with
  | nil => rfl
  | cons c r ih => simp [lowerBetween, ih]

/-- The lower case of a text by three parts. -/
theorem lower_append (before s after : List Char) :
    lower (before ++ s ++ after) =
      lowerBetween [] (s ++ after) before ++ lowerBetween before.reverse after s ++
        lowerBetween (s.reverse ++ before.reverse) [] after := by
  rw [lower_eq, List.append_assoc, lowerBetween_append, lowerBetween_append]
  simp

theorem length_imageBetween (before after before' after' : List Char) (c : Char) :
    (imageBetween before after c).length = (imageBetween before' after' c).length := by
  unfold imageBetween
  split <;> rfl

theorem length_lowerBetween (before after before' after' s : List Char) :
    (lowerBetween before after s).length = (lowerBetween before' after' s).length := by
  induction s generalizing before before' with
  | nil => rfl
  | cons c r ih =>
    rw [lowerBetween, lowerBetween, List.length_append, List.length_append,
      ih (c :: before) (c :: before'), length_imageBetween]

theorem length_lowerBetween_eq (before after s : List Char) :
    (lowerBetween before after s).length = (lower s).length := by
  rw [lower_eq]
  exact length_lowerBetween before after [] [] s

/-! ## Sigmas that keep their forms -/

/-- Every capital sigma of a text has between two other texts, of which the first is in reverse
order, the form that it has without them. -/
def SigmasKept (before after s : List Char) : Prop :=
  ∀ u v, s = u ++ 'Σ' :: v →
    sigmaBetween (u.reverse ++ before) (v ++ after) = sigmaBetween u.reverse v

theorem imageBetween_eq_iff {before after before' after' : List Char} {c : Char} :
    imageBetween before after c = imageBetween before' after' c ↔
      (c = 'Σ' → sigmaBetween before after = sigmaBetween before' after') := by
  unfold imageBetween
  by_cases hc : c = 'Σ' <;> simp [hc]

/-- What `seen` says has been read of the part already, so that the induction can go on in it. -/
theorem lowerBetween_eq_iff (seen before after s : List Char) :
    lowerBetween (seen ++ before) after s = lowerBetween seen [] s ↔
      ∀ u v, s = u ++ 'Σ' :: v →
        sigmaBetween (u.reverse ++ (seen ++ before)) (v ++ after) =
          sigmaBetween (u.reverse ++ seen) v := by
  induction s generalizing seen with
  | nil => simp [lowerBetween]
  | cons c r ih =>
    have hlength := length_imageBetween (seen ++ before) (r ++ after) seen (r ++ []) c
    rw [lowerBetween, lowerBetween, List.append_eq_append_iff_of_size_eq_left hlength, imageBetween_eq_iff,
      List.append_nil, ← List.cons_append, ih (c :: seen)]
    constructor
    · rintro ⟨hhead, htail⟩ u v huv
      rcases List.cons_eq_append_iff.1 huv with ⟨rfl, hv⟩ | ⟨u', rfl, hr⟩
      · obtain ⟨hc, rfl⟩ := List.cons.inj hv
        exact hhead hc.symm
      · simpa using htail u' v hr
    · intro h
      refine ⟨fun hc => h [] r (by rw [hc]; rfl), fun u v hr => ?_⟩
      simpa using h (c :: u) v (by rw [hr]; rfl)

/-- **A part of a text is lowered as it is alone exactly if its sigmas keep their forms.** -/
theorem lowerBetween_eq_lower_iff {before after s : List Char} :
    lowerBetween before after s = lower s ↔ SigmasKept before after s := by
  rw [lower_eq]
  simpa [SigmasKept] using lowerBetween_eq_iff [] before after s

theorem sigmasKept_nil (s : List Char) : SigmasKept [] [] s := fun u v _ => by simp

/-- Only a sigma with nothing that counts before it, or with nothing that counts after it, can get
another form. -/
theorem sigmasKept_of_edges {s : List Char} (hfirst : edge s ≠ some 'Σ')
    (hlast : edge s.reverse ≠ some 'Σ') (before after : List Char) :
    SigmasKept before after s := by
  rintro u v rfl
  have hu : edge u.reverse ≠ none := by
    intro hnone
    rw [edge_append, edge_reverse_eq_none_iff.1 hnone, edge_sigma] at hfirst
    exact hfirst rfl
  have hv : edge v ≠ none := by
    intro hnone
    rw [List.reverse_append, List.reverse_cons, List.append_assoc, List.singleton_append,
      edge_append, edge_reverse_eq_none_iff.2 hnone, edge_sigma] at hlast
    exact hlast rfl
  exact sigmaBetween_append hu hv before after

end LogFilter.Text
