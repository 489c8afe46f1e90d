import ClientGen.Toml.Scalar

/-!
# Tables of a TOML text

A TOML text defines tables piece by piece: by headers, by dotted keys, and as elements of lists of
tables. A table has one header at most. Dotted keys pass through tables that have none, but define
values only in tables that dotted keys have made; values and inline tables are never extended. The
finished tables are JSON objects with sorted keys.
-/

namespace ClientGen.Toml

/-- How a table came to be: on the way to another header, by a header, or by dotted keys. -/
inductive Origin
  | implicit
  | header
  | dotted
deriving DecidableEq, Repr

/-- What a key stands for. A number beyond its range has no value, and an inline table is closed
like a list. -/
inductive Node
  | value (v : Option Json)
  | list (items : List Node)
  | inline (entries : List (String × Node))
  | table (origin : Origin) (entries : List (String × Node))
  | tables (items : List (List (String × Node)))

/-- Definitions inside one table. -/
abbrev Table := List (String × Node)

/-- Changes the table that a header path leads to, making tables that are missing. A list of tables
stands for its last one. -/
def changeAt (change : Table → Option Table) : List String → Table → Option Table
  | [], table => change table
  | key :: path, table =>
    match Entries.get? table key with
    | none => do
      let inner ← changeAt change path []
      return Entries.put table key (.table .implicit inner)
    | some (.table origin entries) => do
      let inner ← changeAt change path entries
      return Entries.put table key (.table origin inner)
    | some (.tables items) => do
      let last ← items.getLast?
      let inner ← changeAt change path last
      return Entries.put table key (.tables (items.dropLast ++ [inner]))
    | some (.value _) | some (.list _) | some (.inline _) => none

/-- Defines what a key stands for, dotted or not; `isOpen` tells whether the table takes a
definition of its own. A list of tables stands for its last one, which takes none. -/
def define (v : Node) (isOpen : Bool) : List String → Table → Option Table
  | [], _ => none
  | [key], table =>
    if !isOpen || Entries.hasKey table key then none else some (table ++ [(key, v)])
  | key :: path, table =>
    match Entries.get? table key with
    | none => do
      let inner ← define v true path []
      return Entries.put table key (.table .dotted inner)
    | some (.table .header _) => none
    | some (.table origin entries) => do
      let inner ← define v (origin == .dotted) path entries
      return Entries.put table key (.table origin inner)
    | some (.tables items) => do
      let last ← items.getLast?
      let inner ← define v false path last
      return Entries.put table key (.tables (items.dropLast ++ [inner]))
    | some (.value _) | some (.list _) | some (.inline _) => none

/-- The definition made by a header in the table above it. -/
def openTable (key : String) (table : Table) : Option Table :=
  match Entries.get? table key with
  | none => some (table ++ [(key, .table .header [])])
  | some (.table .implicit entries) => some (Entries.put table key (.table .header entries))
  | some _ => none

/-- The definition made by a header of a list of tables. -/
def openElement (key : String) (table : Table) : Option Table :=
  match Entries.get? table key with
  | none => some (table ++ [(key, .tables [[]])])
  | some (.tables items) => some (Entries.put table key (.tables (items ++ [[]])))
  | some _ => none

/-- Entries in the order of their keys, with one more. -/
def insertSorted {α : Type} (key : String) (v : α) : List (String × α) → List (String × α)
  | [] => [(key, v)]
  | (k, w) :: rest =>
    if key < k then (key, v) :: (k, w) :: rest else (k, w) :: insertSorted key v rest

/-- The values under sorted keys, if all have one. -/
def allValues (entries : List (String × Option Json)) : Option (List (String × Json)) :=
  entries.mapM fun (key, v) => v.map (key, ·)

/-- The value of a table with sorted keys. One that starts with the key of dates and times is a date
or time, whatever else it holds. -/
def objectValue (entries : List (String × Option Json)) : Option Json :=
  match entries with
  | (key, v) :: _ =>
    if key == datetimeKey then do datetime (← (← v).string?).toList
    else (allValues entries).map .obj
  | [] => some (.obj [])

mutual

/-- The value of a node, unless a number in it is beyond its range or a date or time malformed. -/
def Node.value? : Node → Option Json
  | .value v => v
  | .list items => (listValues items).map .arr
  | .inline entries => objectValue (sorted entries)
  | .table _ entries => objectValue (sorted entries)
  | .tables items => (tableValues items).map .arr

def listValues : List Node → Option (List Json)
  | [] => some []
  | node :: rest => do return (← node.value?) :: (← listValues rest)

/-- The entries of a table in the order of their keys. -/
def sorted : List (String × Node) → List (String × Option Json)
  | [] => []
  | (key, node) :: rest => insertSorted key node.value? (sorted rest)

def tableValues : List (List (String × Node)) → Option (List Json)
  | [] => some []
  | entries :: rest => do return (← objectValue (sorted entries)) :: (← tableValues rest)

end

/-- The entries of the table that a key stands for, if it stands for one; a date or time is none. -/
def table? (root : List (String × Json)) (key : String) : Option (List (String × Json)) :=
  match Entries.get? root key with
  | some (.obj entries) =>
    if entries.head?.any (·.1 == datetimeKey) then none else some entries
  | _ => none

end ClientGen.Toml
