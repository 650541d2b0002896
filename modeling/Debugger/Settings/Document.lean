import Debugger.Decimal.Binary
/-!
# Settings documents

A settings file is a document of tables: names with values, which may be tables in turn. The file
gives it line by line, and later lines may add to tables that earlier ones began. Whether they may
depends on how a table came about, so a table remembers that.

## 1. Nodes

## 2. Places

A place is a path of names from the outermost table. On the way to it, tables that are missing are
made, and of a list of tables the last one is meant.

## 3. Statements

What a line says. A line that would say something twice, or open a closed table, is refused, and the
document with it.
-/

namespace Debugger.Settings

/-! ## 1. Nodes -/

/-- How a table came about. -/
inductive Origin
  /-- It has a header of its own. -/
  | declared
  /-- It lies on the way of a longer header. Its own header may follow. -/
  | implied
  /-- It lies on the way of a dotted name. Only dotted names can add to it. -/
  | dotted
  deriving DecidableEq, Repr

/-- A value in a document. -/
inductive Node
  | string (text : String)
  | integer (i : Int)
  | float (x : Decimal.Double)
  | boolean (b : Bool)
  /-- A date, a time or both. No setting takes one, so it is not kept which. -/
  | dateTime
  | array (items : List Node)
  /-- A table on one line, to which no other line can add. -/
  | sealed (entries : List (String × Node))
  | table (origin : Origin) (entries : List (String × Node))
  /-- A list of tables, each with a header of its own. -/
  | tables (elements : List (List (String × Node)))

/-- The entries of a table, in the order in which they were begun. -/
abbrev Entries := List (String × Node)

namespace Entries

/-- Gives the name, which the table has, another value. -/
def replace (name : String) (value : Node) (es : Entries) : Entries :=
  es.map fun e => if e.1 = name then (name, value) else e

/-- Takes a name out of the table. -/
def remove (name : String) (es : Entries) : Entries := es.filter (·.1 ≠ name)

/-! ## 2. Places -/

/-- Changes the table at the end of a path. Only a dotted name is kept out of tables with headers,
and the tables that it makes on the way are marked as its own. -/
def changeAt (ofName : Bool) (change : Origin → Entries → Option Entries) :
    List String → Origin → Entries → Option Entries
  | [], origin, es => change origin es
  | name :: path, _, es =>
    match es.lookup name with
    | none => do
      let origin := if ofName then .dotted else .implied
      return es ++ [(name, .table origin (← changeAt ofName change path origin []))]
    | some (.table origin inner) =>
      if ofName && origin = .declared then none
      else do return replace name (.table origin (← changeAt ofName change path origin inner)) es
    | some (.tables elements) => do
      let last ← changeAt ofName change path .declared (← elements.getLast?)
      return replace name (.tables (elements.dropLast ++ [last])) es
    | some _ => none

/-- Adds an entry under a dotted name: at the end of the path, under the last name. A table that was
made by dotted names takes dotted names only, and any other table plain ones only. -/
def addAt (path : List String) (name : String) (value : Node) (es : Entries) : Option Entries :=
  changeAt true (fun origin es =>
    if decide (origin = .dotted) = path.isEmpty || (es.lookup name).isSome then none
    else some (es ++ [(name, value)])) path .declared es

/-- Gives a name a table with a header. One that was implied is moved to the end. -/
def declare (name : String) (es : Entries) : Option Entries :=
  match es.lookup name with
  | none => some (es ++ [(name, .table .declared [])])
  | some (.table .implied inner) => some (remove name es ++ [(name, .table .declared inner)])
  | some _ => none

/-- Adds a table to the list of tables of a name. -/
def declareElement (name : String) (es : Entries) : Option Entries :=
  match es.lookup name with
  | none => some (es ++ [(name, .tables [[]])])
  | some (.tables elements) => some (replace name (.tables (elements ++ [[]])) es)
  | some _ => none

end Entries

/-! ## 3. Statements -/

/-- What a line of a document says. The last name of a dotted name stands apart. -/
inductive Statement
  /-- An entry of the table that was begun last. -/
  | entry (path : List String) (name : String) (value : Node)
  /-- A table begins. -/
  | header (path : List String) (name : String)
  /-- A further table of a list begins. -/
  | element (path : List String) (name : String)

/-- A document as far as it has been read, with the place of the table that was begun last. -/
structure Draft where
  entries : Entries := []
  place : List String := []

namespace Draft

/-- Takes a statement in. -/
def add (d : Draft) : Statement → Option Draft
  | .entry path name value => do
    let change := fun _ es => Entries.addAt path name value es
    return { d with entries := ← Entries.changeAt false change d.place .declared d.entries }
  | .header path name => do
    let change := fun _ es => Entries.declare name es
    return ⟨← Entries.changeAt false change path .declared d.entries, path ++ [name]⟩
  | .element path name => do
    let change := fun _ es => Entries.declareElement name es
    return ⟨← Entries.changeAt false change path .declared d.entries, path ++ [name]⟩

end Draft

/-- The document that statements make. -/
def Entries.ofStatements? (statements : List Statement) : Option Entries :=
  (statements.foldlM Draft.add {}).map (·.entries)

/-- The closed table that a list of dotted names and values makes. -/
def Node.ofPairs? (pairs : List (List String × String × Node)) : Option Node :=
  (pairs.foldlM (fun es (path, name, value) => Entries.addAt path name value es) []).map .sealed

end Debugger.Settings
