/-!
TOML values and the tables of a document under construction. Headers, dotted keys and lists of
tables all add to one tree; a table may be reached again only in the ways the format allows.
-/

namespace ManagedHost.Toml

inductive Value where
  | string (text : String)
  | integer (n : Int)
  /-- A float, by the text that shows it. -/
  | float (shown : String)
  | boolean (b : Bool)
  /-- A date, a time or both. -/
  | moment
  | array (items : List Value)
  | table (fields : List (String × Value))
deriving Inhabited

/-- How a table came to be. -/
inductive Origin where
  /-- By a header, or as the root. -/
  | header
  /-- As a step on the way of a header. -/
  | passage
  /-- As a step on the way of a dotted key. -/
  | dotted
deriving DecidableEq, Repr

inductive Node where
  | leaf (value : Value)
  | table (origin : Origin) (entries : List (String × Node))
  | tables (items : List (List (String × Node)))

namespace Node

abbrev Entries := List (String × Node)

def replace (entries : Entries) (key : String) (node : Node) : Entries :=
  entries.map fun entry => if entry.1 = key then (key, node) else entry

/-- Walks a path of keys and changes the table at its end. Missing tables are made on the way; a
list of tables stands for its last one; a value in the way, or a table with a header of its own in
the way of a dotted key, is an error. -/
def modifyAt (byDots : Bool) (change : Origin → Entries → Option Entries) :
    List String → Origin → Entries → Option Entries
  | [], origin, entries => change origin entries
  | key :: path, _, entries =>
    match entries.lookup key with
    | none => do
      let origin := if byDots then .dotted else .passage
      return entries ++ [(key, .table origin (← modifyAt byDots change path origin []))]
    | some (.leaf _) => none
    | some (.tables items) => do
      let last ← modifyAt byDots change path .header (items.getLast?.getD [])
      return replace entries key (.tables (items.dropLast ++ [last]))
    | some (.table origin inner) =>
      if byDots && origin = .header then none
      else do
        return replace entries key (.table origin (← modifyAt byDots change path origin inner))

def addValue (key : List String) (value : Value) (origin : Origin) (entries : Entries) :
    Option Entries :=
  modifyAt true
    (fun reached inner =>
      if (reached == .dotted) == key.dropLast.isEmpty then none
      else
        match key.getLast? with
        | none => none
        | some last =>
          if (inner.lookup last).isSome then none else some (inner ++ [(last, .leaf value)]))
    key.dropLast origin entries

/-- Opens the table of a header. A table that was only passed on the way of another header moves
to the end; any other entry of that name is an error. -/
def openTable (path : List String) (entries : Entries) : Option Entries :=
  match path.getLast? with
  | none => none
  | some key =>
    modifyAt false
      (fun _ inner =>
        match inner.lookup key with
        | none => some (inner ++ [(key, .table .header [])])
        | some (.table .passage old) =>
          some (inner.filter (·.1 ≠ key) ++ [(key, .table .header old)])
        | some _ => none)
      path.dropLast .header entries

def openListTable (path : List String) (entries : Entries) : Option Entries :=
  match path.getLast? with
  | none => none
  | some key =>
    modifyAt false
      (fun _ inner =>
        match inner.lookup key with
        | none => some (inner ++ [(key, .tables [[]])])
        | some (.tables items) => some (replace inner key (.tables (items ++ [[]])))
        | some _ => none)
      path.dropLast .header entries

mutual

def toValue : Node → Value
  | .leaf value => value
  | .table _ entries => .table (toFields entries)
  | .tables items => .array (toTables items)

def toFields : List (String × Node) → List (String × Value)
  | [] => []
  | (key, node) :: rest => (key, toValue node) :: toFields rest

def toTables : List (List (String × Node)) → List Value
  | [] => []
  | entries :: rest => .table (toFields entries) :: toTables rest

end

end Node

end ManagedHost.Toml
