/-!
# TOML documents

The values of a document, and how its lines put them together.

Tables come about in three ways: by a header of their own, as the place of a table with a longer
header, and by a key with dots. How one came about decides what later lines may do with it. A table
gets one header at most, and none if keys with dots made it; keys with dots add only to what keys
with dots have made.
-/

namespace LogFilter

/-- A value of a document. Of numbers, truth values, dates and times it is only kept that they are
one. -/
inductive Toml
  | string (s : String)
  | scalar
  | array (items : List Toml)
  | table (entries : List (String × Toml))

namespace Toml

/-- How a table came about. -/
inductive Origin
  | header
  | longerHeader
  | dottedKey
  deriving DecidableEq, Repr

/-- What a name stands for while a document is put together. -/
inductive Node
  | value (v : Toml)
  | table (origin : Origin) (entries : List (String × Node))
  /-- The tables of one header in double brackets, the last one first. -/
  | tables (items : List (List (String × Node)))

/-- Names with what they stand for, in the order of their first lines. -/
abbrev Entries := List (String × Node)

namespace Entries

def find? (key : String) : Entries → Option Node
  | [] => none
  | (k, node) :: rest => if k = key then some node else find? key rest

/-- The entries with another node for a name, which is added at the end if it is new. -/
def set (key : String) (node : Node) : Entries → Entries
  | [] => [(key, node)]
  | (k, n) :: rest => if k = key then (k, node) :: rest else (k, n) :: set key node rest

/-- The entries with one more, unless there is one of its name. -/
def add? (key : String) (node : Node) (entries : Entries) : Option Entries :=
  match entries.find? key with
  | none => some (entries.set key node)
  | some _ => none

/-- Changes the table at the end of a path, which begins in a table of the given origin. Tables that
do not exist yet are made; of several tables of one header the last one is meant. -/
def changeAt (dotted : Bool) (change : Origin → Entries → Option Entries) :
    (path : List String) → Origin → Entries → Option Entries
  | [], origin, entries => change origin entries
  | key :: path, _, entries =>
    match entries.find? key with
    | none => do
      let origin := if dotted then .dottedKey else .longerHeader
      let inner ← changeAt dotted change path origin []
      some (entries.set key (.table origin inner))
    | some (.table origin inner) =>
      if dotted ∧ origin = .header then none
      else do
        let inner ← changeAt dotted change path origin inner
        some (entries.set key (.table origin inner))
    | some (.tables (last :: others)) => do
      let last ← changeAt dotted change path .header last
      some (entries.set key (.tables (last :: others)))
    | some _ => none

/-- Gives a table its header. -/
def openTable? (key : String) (entries : Entries) : Option Entries :=
  match entries.find? key with
  | none => some (entries.set key (.table .header []))
  | some (.table .longerHeader inner) => some (entries.set key (.table .header inner))
  | some _ => none

/-- Adds a table to those of a header in double brackets. -/
def openTables? (key : String) (entries : Entries) : Option Entries :=
  match entries.find? key with
  | none => some (entries.set key (.tables [[]]))
  | some (.tables items) => some (entries.set key (.tables ([] :: items)))
  | some _ => none

/-- Gives a new name at the end of a path of dotted keys a value. -/
def assign? (path : List String) (key : String) (value : Toml) (origin : Origin)
    (entries : Entries) : Option Entries :=
  changeAt true (fun origin entries =>
    if (origin == .dottedKey) == path.isEmpty then none else entries.add? key (.value value))
    path origin entries

end Entries

mutual

/-- The value of a node. -/
def Node.toToml : Node → Toml
  | .value v => v
  | .table _ entries => .table (entriesToToml entries)
  | .tables items => .array (tablesToToml items).reverse

/-- The values of names. -/
def entriesToToml : List (String × Node) → List (String × Toml)
  | [] => []
  | (key, node) :: rest => (key, node.toToml) :: entriesToToml rest

/-- Tables as values. -/
def tablesToToml : List (List (String × Node)) → List Toml
  | [] => []
  | entries :: rest => .table (entriesToToml entries) :: tablesToToml rest

end

/-- A key of one or more parts: all but the last one, and that. -/
structure Key where
  path : List String
  last : String

/-- A line of a document that says something. -/
inductive Statement
  | openTable (key : Key)
  | openTables (key : Key)
  | assign (key : Key) (value : Toml)

/-- A document as far as it was read, and the path of the header above the line. -/
structure Document where
  root : Entries
  current : List String

namespace Document

def empty : Document := ⟨[], []⟩

/-- The document with one more line. -/
def add? (document : Document) (statement : Statement) : Option Document :=
  let change (dotted : Bool) (path : List String) (f : Origin → Entries → Option Entries) :=
    document.root.changeAt dotted f path .header
  match statement with
  | .openTable key => do
    let root ← change false key.path fun _ entries => entries.openTable? key.last
    some ⟨root, key.path ++ [key.last]⟩
  | .openTables key => do
    let root ← change false key.path fun _ entries => entries.openTables? key.last
    some ⟨root, key.path ++ [key.last]⟩
  | .assign key value => do
    let root ← change false document.current fun origin entries =>
      entries.assign? key.path key.last value origin
    some { document with root := root }

end Document

/-- The value of a name in a table. -/
def find? (key : String) : List (String × Toml) → Option Toml
  | [] => none
  | (k, v) :: rest => if k = key then some v else find? key rest

end Toml

end LogFilter
