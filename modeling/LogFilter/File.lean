import LogFilter.Text.Utf8

/-!
# Files

What is known of a file: what it holds, or why that cannot be had.
-/

namespace LogFilter

/-- Why the contents of a file cannot be had. -/
inductive FileError
  | notFound
  | isDirectory
  /-- Part of the path names a file where a directory is needed. -/
  | notDirectory
  | notPermitted
  /-- The file holds bytes that are no text. -/
  | notText
  /-- Any other failure, in the words of the system. -/
  | other (message : String)
  deriving DecidableEq, Repr

def FileError.message : FileError → String
  | notFound => "No such file or directory (os error 2)"
  | isDirectory => "Is a directory (os error 21)"
  | notDirectory => "Not a directory (os error 20)"
  | notPermitted => "Permission denied (os error 13)"
  | notText => "stream did not contain valid UTF-8"
  | other message => message

/-- What a file holds, or why that cannot be had. -/
abbrev File := Except FileError Text.Contents

end LogFilter
