/-!
# General categories

The categories of Unicode under their two-letter names, and their one-letter groups.
-/

namespace LogFilter.Text

/-- The general category of a code point. -/
inductive Category
  | lu | ll | lt | lm | lo
  | mn | mc | me
  | nd | nl | no
  | pc | pd | ps | pe | pi | pf | po
  | sm | sc | sk | so
  | zs | zl | zp
  | cc | cf | cs | co | cn
  deriving DecidableEq, Repr, Inhabited

namespace Category

/-- All categories. -/
def all : List Category :=
  [lu, ll, lt, lm, lo, mn, mc, me, nd, nl, no, pc, pd, ps, pe, pi, pf, po, sm, sc, sk, so, zs, zl,
    zp, cc, cf, cs, co, cn]

theorem mem_all (category : Category) : category ∈ all := by cases category <;> decide

/-- Letters of any case. -/
def isLetter : Category → Bool
  | lu | ll | lt | lm | lo => true
  | _ => false

/-- Marks that combine with the character before them. -/
def isMark : Category → Bool
  | mn | mc | me => true
  | _ => false

/-- Digits, letter-like numerals and other numbers. -/
def isNumber : Category → Bool
  | nd | nl | no => true
  | _ => false

/-- Punctuation of all kinds. -/
def isPunctuation : Category → Bool
  | pc | pd | ps | pe | pi | pf | po => true
  | _ => false

/-- Mathematical, currency, modifier and other symbols. -/
def isSymbol : Category → Bool
  | sm | sc | sk | so => true
  | _ => false

/-- Space, line and paragraph separators. -/
def isSeparator : Category → Bool
  | zs | zl | zp => true
  | _ => false

/-- Controls, format characters, surrogates, private use and unassigned code points. -/
def isOther : Category → Bool
  | cc | cf | cs | co | cn => true
  | _ => false

end Category

end LogFilter.Text
