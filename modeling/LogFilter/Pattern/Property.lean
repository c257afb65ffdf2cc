import LogFilter.Pattern.CaseChange
import LogFilter.Pattern.Segment
import LogFilter.Text.Split

/-!
# Classes of characters by name

A class is named by a property that characters have or have not, by a general category or by a
script. It is also named by the word for a kind of classes and a value with a sign between them;
the kinds are the categories, the scripts, the ages and the three ways to cut a text.

Names are compared loosely: case, spaces, hyphens and underscores do not count, nor does the word
`is` at the start.
-/

namespace LogFilter.CharSet

open Text

/-- What counts of a name. -/
def looseName (s : List Char) : String :=
  let (startsWithIs, rest) :=
    match s with
    | a :: b :: r => if a.toLower = 'i' ∧ b.toLower = 's' then (true, r) else (false, s)
    | _ => (false, s)
  let kept := rest.filter fun c => c.toNat < 0x80 && c ≠ ' ' && c ≠ '_' && c ≠ '-'
  let name := String.ofList (kept.map Char.toLower)
  if startsWithIs && name = "c" then "isc" else name

/-- The general categories of a name. -/
def categories? (name : String) : Option (Category → Bool) :=
  let one (c : Category) : Option (Category → Bool) := some fun d => d == c
  match name with
  | "l" | "letter" => some Category.isLetter
  | "lc" | "casedletter" => some fun c => c == .lu || c == .ll || c == .lt
  | "lu" | "uppercaseletter" => one .lu
  | "ll" | "lowercaseletter" => one .ll
  | "lt" | "titlecaseletter" => one .lt
  | "lm" | "modifierletter" => one .lm
  | "lo" | "otherletter" => one .lo
  | "m" | "mark" | "combiningmark" => some Category.isMark
  | "mn" | "nonspacingmark" => one .mn
  | "mc" | "spacingmark" => one .mc
  | "me" | "enclosingmark" => one .me
  | "n" | "number" => some Category.isNumber
  | "nd" | "decimalnumber" | "digit" => one .nd
  | "nl" | "letternumber" => one .nl
  | "no" | "othernumber" => one .no
  | "p" | "punctuation" | "punct" => some Category.isPunctuation
  | "pc" | "connectorpunctuation" => one .pc
  | "pd" | "dashpunctuation" => one .pd
  | "ps" | "openpunctuation" => one .ps
  | "pe" | "closepunctuation" => one .pe
  | "pi" | "initialpunctuation" => one .pi
  | "pf" | "finalpunctuation" => one .pf
  | "po" | "otherpunctuation" => one .po
  | "s" | "symbol" => some Category.isSymbol
  | "sm" | "mathsymbol" => one .sm
  | "sc" | "currencysymbol" => one .sc
  | "sk" | "modifiersymbol" => one .sk
  | "so" | "othersymbol" => one .so
  | "z" | "separator" => some Category.isSeparator
  | "zs" | "spaceseparator" => one .zs
  | "zl" | "lineseparator" => one .zl
  | "zp" | "paragraphseparator" => one .zp
  | "c" | "other" => some Category.isOther
  | "cc" | "control" | "cntrl" => one .cc
  | "cf" | "format" => one .cf
  | "co" | "privateuse" => one .co
  | "cn" | "unassigned" => one .cn
  | _ => none

/-- The characters of a general category, or of one of three larger classes that are used like
categories. -/
def category? (name : String) : Option CharSet :=
  match name with
  | "any" => some all
  | "assigned" => some (category .cn).complement
  | "ascii" => some ⟨[(0, 0x7F)]⟩
  | _ => (categories? name).map ofCategories

/-- The script of a name. -/
def findScript? (name : String) : Option Script :=
  Script.all.find? fun script => script.names.contains name

/-- The characters of a script. -/
def script? (name : String) : Option CharSet := (findScript? name).map fun script => ⟨script.own⟩

/-- The code points that scripts share. -/
def sharedByScripts : CharSet := unionAll (Script.all.map Script.shared)

/-- The characters that a script uses. Those that several scripts share belong no more to the two
classes for characters of many scripts. -/
def scriptExtensions? (name : String) : Option CharSet :=
  (findScript? name).map fun script =>
    if script.names.contains "zyyy" || script.names.contains "zinh" then
      diff ⟨script.own⟩ sharedByScripts
    else unionAll [script.own, script.shared]

/-- The names of a version of Unicode: with a point between its numbers, or run together after a
`v`. -/
def ageNames (age : Age) : List String :=
  [s!"{age.major}.{age.minor}", s!"v{age.major}{age.minor}"]

/-- The characters that a version has, those of the versions before it among them. -/
def age? (name : String) : Option CharSet :=
  (Age.known.findIdx? fun age => (ageNames age).contains name).map fun i =>
    unionAll ((Age.known.take (i + 1)).map Age.added)

/-- Where a name may start. -/
def nameStarts : CharSet :=
  (unionAll [(ofCategories Category.isLetter).ranges, (category .nl).ranges,
    otherNameStartTable]).diff ⟨[(0x2E2F, 0x2E2F)]⟩

/-- What a name may be made of. -/
def nameParts : CharSet :=
  let others := ofCategories fun c => c == .mn || c == .mc || c == .nd || c == .pc
  unionAll [nameStarts.ranges, others.ranges, otherNameTable]

/-- Characters that are alphabetic by no category of theirs. -/
def otherAlphabetic : CharSet := alphabetic.diff (ofCategories fun c => c.isLetter || c == .nl)

/-- Characters that extend the one before them by no category of theirs. -/
def otherGraphemeExtend : CharSet := graphemeExtend.diff (ofCategories fun c => c == .mn || c == .me)

/-- The characters with a property. -/
def property? (name : String) : Option CharSet :=
  match name with
  | "ahex" | "asciihexdigit" => some ⟨[(0x30, 0x39), (0x41, 0x46), (0x61, 0x66)]⟩
  | "alpha" | "alphabetic" => some alphabetic
  | "bidic" | "bidicontrol" => some ⟨bidiControlTable⟩
  | "bidim" | "bidimirrored" => some ⟨bidiMirroredTable⟩
  | "ci" | "caseignorable" => some caseIgnorable
  | "cased" => some cased
  | "cwcf" | "changeswhencasefolded" => some changesInFolding
  | "cwcm" | "changeswhencasemapped" => some changesInSomeCase
  | "cwl" | "changeswhenlowercased" => some changesInLower
  | "cwt" | "changeswhentitlecased" => some changesInTitle
  | "cwu" | "changeswhenuppercased" => some changesInUpper
  | "dash" => some ⟨dashTable⟩
  | "di" | "defaultignorablecodepoint" => some ⟨defaultIgnorableTable⟩
  | "dep" | "deprecated" => some ⟨deprecatedCharacterTable⟩
  | "dia" | "diacritic" => some ⟨diacriticTable⟩
  | "emoji" => some ⟨emojiTable⟩
  | "ebase" | "emojimodifierbase" => some ⟨emojiModifierBaseTable⟩
  | "ecomp" | "emojicomponent" => some ⟨emojiComponentTable⟩
  | "emod" | "emojimodifier" => some ⟨emojiModifierTable⟩
  | "epres" | "emojipresentation" => some ⟨emojiPresentationTable⟩
  | "extpict" | "extendedpictographic" => some ⟨extendedPictographicTable⟩
  | "ext" | "extender" => some ⟨extenderCharacterTable⟩
  | "grbase" | "graphemebase" =>
    let others := ofCategories fun c => c.isOther || c == .zl || c == .zp
    some (others.union graphemeExtend).complement
  | "grext" | "graphemeextend" => some graphemeExtend
  | "grlink" | "graphemelink" => some ⟨graphemeLinkTable⟩
  | "hex" | "hexdigit" => some ⟨hexDigitTable⟩
  | "hyphen" => some ⟨hyphenTable⟩
  | "idcompatmathcontinue" => some (unionAll [mathNameStartTable, mathNameTable])
  | "idcompatmathstart" => some ⟨mathNameStartTable⟩
  | "idsb" | "idsbinaryoperator" => some ⟨[(0x2FF0, 0x2FF1), (0x2FF4, 0x2FFD), (0x31EF, 0x31EF)]⟩
  | "idst" | "idstrinaryoperator" => some ⟨[(0x2FF2, 0x2FF3)]⟩
  | "idsu" | "idsunaryoperator" => some ⟨[(0x2FFE, 0x2FFF)]⟩
  | "ids" | "idstart" => some nameStarts
  | "idc" | "idcontinue" => some nameParts
  | "xids" | "xidstart" => some (nameStarts.diff ⟨unstableNameStartTable⟩)
  | "xidc" | "xidcontinue" => some (nameParts.diff ⟨unstableNameTable⟩)
  | "ideo" | "ideographic" => some ⟨ideographicTable⟩
  | "joinc" | "joincontrol" => some ⟨[(0x200C, 0x200D)]⟩
  | "loe" | "logicalorderexception" => some ⟨logicalOrderExceptionTable⟩
  | "lower" | "lowercase" => some lowercase
  | "math" => some (unionAll [(category .sm).ranges, otherMathTable])
  | "mcm" | "modifiercombiningmark" => some ⟨modifierCombiningMarkTable⟩
  | "nchar" | "noncharactercodepoint" => some ⟨noncharacterTable⟩
  | "oalpha" | "otheralphabetic" => some otherAlphabetic
  | "odi" | "otherdefaultignorablecodepoint" => some ⟨otherDefaultIgnorableTable⟩
  | "ogrext" | "othergraphemeextend" => some otherGraphemeExtend
  | "oidc" | "otheridcontinue" => some ⟨otherNameTable⟩
  | "oids" | "otheridstart" => some ⟨otherNameStartTable⟩
  | "olower" | "otherlowercase" => some ⟨otherLowercaseTable⟩
  | "omath" | "othermath" => some ⟨otherMathTable⟩
  | "oupper" | "otheruppercase" => some ⟨otherUppercaseTable⟩
  | "patsyn" | "patternsyntax" => some ⟨patternPunctuationTable⟩
  | "patws" | "patternwhitespace" => some ⟨patternBlankTable⟩
  | "pcm" | "prependedconcatenationmark" => some prependedMarks
  | "qmark" | "quotationmark" => some ⟨quotationMarkTable⟩
  | "radical" => some ⟨radicalTable⟩
  | "ri" | "regionalindicator" => some regionalIndicators
  | "sd" | "softdotted" => some ⟨softDottedTable⟩
  | "sterm" | "sentenceterminal" => some ⟨sentenceTerminalTable⟩
  | "term" | "terminalpunctuation" => some ⟨terminalPunctuationTable⟩
  | "uideo" | "unifiedideograph" => some ⟨unifiedIdeographTable⟩
  | "upper" | "uppercase" => some uppercase
  | "vs" | "variationselector" => some ⟨variationSelectorTable⟩
  | "wspace" | "whitespace" | "space" => some (blanks true)
  | _ => none

/-- The characters of a class that is named alone. -/
def named? (name : List Char) : Option CharSet :=
  let name := looseName name
  property? name <|> category? name <|> script? name

/-- The characters of a class that is named by a word for a kind of classes and a value. -/
def valued? (kind value : List Char) : Option CharSet :=
  let value := looseName value
  match looseName kind with
  | "gc" | "generalcategory" => category? value
  | "sc" | "script" => script? value
  | "scx" | "scriptextensions" => scriptExtensions? value
  | "age" => age? value
  | "gcb" | "graphemeclusterbreak" => clusterBreak? value
  | "wb" | "wordbreak" => wordBreak? value
  | "sb" | "sentencebreak" => sentenceBreak? value
  | _ => none

/-- The class that a name with or without a value stands for, and whether the sign before the value
takes all other characters instead. -/
def ofName? (s : List Char) : Option (CharSet × Bool) :=
  match breakOn ['!', '='] s with
  | some (kind, value) => (valued? kind value).map (·, true)
  | none =>
    let set :=
      match breakOn [':'] s with
      | some (kind, value) => valued? kind value
      | none =>
        match breakOn ['='] s with
        | some (kind, value) => valued? kind value
        | none => named? s
    set.map (·, false)

end LogFilter.CharSet
