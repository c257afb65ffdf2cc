import LogFilter.CommandLine.Reader
import LogFilter.Except

/-!
# Command lines that filter a file by a condition

A condition of any text can be given in one word with the name of its parameter, and the file after
`--`: `read_joined`. Both can also be words of their own, if these have not the form of an option:
`read_apart`.
-/

namespace LogFilter.CommandLine

open Text

variable {environment : Option String} {settings : List Setting} {parameter : Parameter}

/-! ## Values -/

theorem path?_eq_some {path : String} (h : path ≠ "") : path? path = some path := by
  rw [path?, if_neg (by simpa using h)]

/-- A value that is good is looked at if it is the first one of its parameter. -/
theorem Progress.record_of_read {value : String} {setting : Setting}
    (hfirst : settings.any (fun s => s.parameter? = some parameter) = false)
    (hread : parameter.read value = .ok setting) :
    Progress.record settings parameter value = .ok ⟨settings ++ [setting], none⟩ := by
  rw [Progress.record, hfirst, Bool.and_false, if_neg Bool.false_ne_true, hread]
  rfl

theorem Parameter.read_file {path : String} (h : path ≠ "") :
    Parameter.file.read path = .ok (.file path) := by
  rw [Parameter.read, path?_eq_some h]
  rfl

/-- Where no rules are named, the path in the environment is looked at, and found good unless it is
empty. -/
theorem finish_of_resolve {p : Progress} (henv : environment ≠ some "")
    (hresolve : p.resolve = .ok ⟨settings, none⟩)
    (hconfig : settings.findSome? Setting.config? = none) :
    finish environment p = .ok settings := by
  unfold finish
  rw [hresolve]
  dsimp only
  rw [hconfig]
  cases environment with
  | none => rfl
  | some path =>
    have hpath : path ≠ "" := fun h => henv (congrArg some h)
    dsimp only
    rw [Parameter.read, path?_eq_some hpath]
    rfl

/-! ## Words -/

theorem Word.of_condition (text : String) :
    Word.of ("--condition=" ++ text) = .named "condition" (some text) := by
  have hword : ("--condition=" ++ text).toList =
      '-' :: '-' :: ("condition".toList ++ '=' :: text.toList) := by
    rw [String.toList_append]
    rfl
  -- the name ends at the first `=`, so signs in the condition itself do not matter
  have hof : Word.of ("--condition=" ++ text) =
      .named (String.ofList "condition".toList) (some (String.ofList text.toList)) := by
    unfold Word.of
    rw [hword]
    rfl
  rw [hof, String.ofList_toList, String.ofList_toList]

/-- A plain word after the name of a command. -/
theorem readWords_plain {name : CommandName} {p next : Progress} {word : String}
    (hword : Word.of word = .plain word) (h : p.readPlain (.command name) word = .ok next)
    (rest : List String) :
    readWords (.command name) p (word :: rest) = readWords (.command name) next rest := by
  rw [readWords, hword]
  dsimp only
  rw [h]
  rfl

/-- A named word after the name of a command. -/
theorem readWords_named {name : CommandName} {p next : Progress} {word spelled : String}
    {value : Option String} (hword : Word.of word = .named spelled value)
    (h : p.readNamed (.command name) word spelled value = .ok next) (rest : List String) :
    readWords (.command name) p (word :: rest) = readWords (.command name) next rest := by
  rw [readWords, hword]
  dsimp only
  rw [h]
  rfl

/-! ## Command lines -/

/-- The words that come of a flag. -/
def jsonWords (json : Bool) : List String := if json then ["--json"] else []

/-- What is read of a command line that filters. -/
theorem read_filter {words : List String} {p : Progress} {command : Command}
    (henv : environment ≠ some "") (hwords : readWords (.command .filter) .start words = .ok (p, none))
    (hresolve : p.resolve = .ok ⟨settings, none⟩)
    (hconfig : settings.findSome? Setting.config? = none)
    (hcommand : Command.ofSettings .filter settings = .ok command) :
    Arguments.read environment ("filter" :: words) = .ok (.of environment [] settings command) := by
  have hname : readWords .program .start ("filter" :: words) = .ok (.start, some (.filter, words)) :=
    rfl
  have hinner : readCommand environment .filter words = .ok (settings, command) := by
    rw [readCommand, hwords, Except.ok_bind]
    dsimp only
    rw [finish_of_resolve henv hresolve hconfig, Except.ok_bind, hcommand]
    rfl
  have houter : finish environment .start = .ok [] := finish_of_resolve henv rfl rfl
  rw [Arguments.read, hname, Except.ok_bind]
  dsimp only
  rw [hinner, Except.ok_bind]
  dsimp only
  rw [houter]
  rfl

variable {file : String}

/-- **Any text can be given as a condition, and any path but the empty one as a file.** -/
theorem read_joined (henv : environment ≠ some "") (hfile : file ≠ "") (text : String)
    (json : Bool) :
    Arguments.read environment
        ("filter" :: ("--condition=" ++ text) :: (jsonWords json ++ ["--", file])) =
      .ok ⟨environment, 0, .auto, .filter ⟨file, some text, json⟩⟩ := by
  have hrecord (settings : List Setting)
      (hfirst : settings.any (fun s => s.parameter? = some Parameter.file) = false) :
      Progress.record settings .file file = .ok ⟨settings ++ [.file file], none⟩ :=
    Progress.record_of_read hfirst (Parameter.read_file hfile)
  cases json with
  | false =>
    have hwords : readWords (.command .filter) .start (("--condition=" ++ text) :: ["--", file]) =
        .ok (⟨[.condition text], some (.file, some file)⟩, none) := by
      rw [readWords, Word.of_condition]
      rfl
    exact read_filter henv hwords (hrecord [.condition text] rfl) rfl rfl
  | true =>
    have hwords : readWords (.command .filter) .start
        (("--condition=" ++ text) :: ["--json", "--", file]) =
        .ok (⟨[.condition text, .json], some (.file, some file)⟩, none) := by
      rw [readWords, Word.of_condition]
      rfl
    exact read_filter henv hwords (hrecord [.condition text, .json] rfl) rfl rfl

/-- The condition and the file can be words of their own. -/
theorem read_apart {text : String} (henv : environment ≠ some "") (hfile : file ≠ "")
    (hplain : Word.of file = .plain file) (htext : Word.of text = .plain text) (json : Bool) :
    Arguments.read environment ("filter" :: file :: "--condition" :: text :: jsonWords json) =
      .ok ⟨environment, 0, .auto, .filter ⟨file, some text, json⟩⟩ := by
  have hrecord : Progress.record [] .file file = .ok ⟨[.file file], none⟩ :=
    Progress.record_of_read rfl (Parameter.read_file hfile)
  have hplaced : Progress.readPlain (.command .filter) .start file =
      .ok ⟨[], some (.file, some file)⟩ := rfl
  have hname : Word.of "--condition" = .named "condition" none := rfl
  have hawait : Progress.readNamed (.command .filter) ⟨[], some (.file, some file)⟩ "--condition"
      "condition" none = .ok ⟨[.file file], some (.condition, none)⟩ := by
    show (Progress.record [] .file file).map _ = _
    rw [hrecord]
    rfl
  have hwords : readWords (.command .filter) .start
      (file :: "--condition" :: text :: jsonWords json) =
      readWords (.command .filter) ⟨[.file file], some (.condition, some text)⟩
        (jsonWords json) := by
    rw [readWords_plain hplain hplaced, readWords_named hname hawait, readWords_plain htext rfl]
  cases json with
  | false => exact read_filter henv hwords rfl rfl rfl
  | true => exact read_filter henv hwords rfl rfl rfl

end LogFilter.CommandLine
