/-! # TOML documents

The value of a document, and how the statements of a document build it.  While a
document is read, a table remembers how it came about: tables that a header only
passed through may still get a header of their own, and tables made by dotted
keys may be extended by dotted keys alone.
-/

namespace Telemetry

/-- A TOML value. -/
inductive Toml where
  | string (s : String)
  | integer (n : Int)
  | float
  | boolean (b : Bool)
  | dateTime
  | array (items : List Toml)
  | table (entries : List (String × Toml))
deriving Repr, Inhabited

namespace Toml

/-- What stands under a key while a document is read. -/
inductive Node where
  | value (v : Toml)
  /-- A table: whether it has no header or value of its own, whether dotted keys
  made it, and its entries. -/
  | table (implicit dotted : Bool) (entries : List (String × Node))
  /-- An array of tables, each with its entries. -/
  | tables (elements : List (List (String × Node)))

/-- The entries of a table under construction. -/
abbrev Entries := List (String × Node)

/-- What stands under a key. -/
def find? (key : String) (entries : Entries) : Option Node :=
  (entries.find? fun e => e.1 = key).map Prod.snd

/-- Puts a node under a key, in place of what was there. -/
def put (key : String) (node : Node) (entries : Entries) : Entries :=
  if entries.any fun e => e.1 = key then
    entries.map fun e => if e.1 = key then (key, node) else e
  else entries ++ [(key, node)]

/-- Walks down a path of keys and changes the entries of the table at its end.
Tables on the way are made where they are missing; an array of tables stands for
its last element.  Dotted keys may not enter a table that has a header or value
of its own.  `change` is told whether dotted keys made the table. -/
def descend (byDots : Bool) (change : (dotted : Bool) → Entries → Option Entries) :
    (dotted : Bool) → (path : List String) → Entries → Option Entries
  | dotted, [], entries => change dotted entries
  | _, key :: path, entries =>
    match find? key entries with
    | none => do
      let below ← descend byDots change byDots path []
      return put key (.table true byDots below) entries
    | some (.value _) => none
    | some (.table implicit dotted below) =>
      if byDots && !implicit then none
      else do
        let below ← descend byDots change dotted path below
        return put key (.table implicit dotted below) entries
    | some (.tables elements) =>
      match elements.getLast? with
      | none => none
      | some last => do
        let last ← descend byDots change false path last
        return put key (.tables (elements.dropLast ++ [last])) entries

/-- Stores a value under a dotted key of a table. -/
def addPair (path : List String) (key : String) (v : Node) (dotted : Bool) (entries : Entries) :
    Option Entries :=
  descend true (fun madeByDots entries =>
    if madeByDots = path.isEmpty then none
    else match find? key entries with
      | some _ => none
      | none => some (entries ++ [(key, v)])) dotted path entries

/-- Opens the table of a header. -/
def openTable (path : List String) (key : String) (root : Entries) : Option Entries :=
  descend false (fun _ entries =>
    match find? key entries with
    | none => some (entries ++ [(key, .table false false [])])
    | some (.table true false below) => some (put key (.table false false below) entries)
    | some _ => none) false path root

/-- Opens a new element of an array of tables. -/
def openElement (path : List String) (key : String) (root : Entries) : Option Entries :=
  descend false (fun _ entries =>
    match find? key entries with
    | none => some (entries ++ [(key, .tables [[]])])
    | some (.tables elements) => some (put key (.tables (elements ++ [[]])) entries)
    | some _ => none) false path root

/-- A statement of a document. -/
inductive Statement where
  | header (path : List String) (key : String)
  | elementHeader (path : List String) (key : String)
  | pair (path : List String) (key : String) (v : Toml)

/-- A document as far as it is read: its entries and the path of the table that
the last header opened. -/
structure Draft where
  root : Entries
  current : List String

/-- Takes one more statement in. -/
def Draft.add (d : Draft) : Statement → Option Draft
  | .header path key => (openTable path key d.root).map fun root => ⟨root, path ++ [key]⟩
  | .elementHeader path key => (openElement path key d.root).map fun root => ⟨root, path ++ [key]⟩
  | .pair path key v => do
    let root ← descend false (fun _ entries => addPair path key (.value v) false entries) false
      d.current d.root
    return { d with root := root }

mutual

/-- The finished value of a node. -/
def Node.toToml : Node → Toml
  | .value v => v
  | .table _ _ entries => .table (finishEntries entries)
  | .tables elements => .array (finishElements elements)

/-- The finished entries of a table. -/
def finishEntries : List (String × Node) → List (String × Toml)
  | [] => []
  | (key, node) :: rest => (key, node.toToml) :: finishEntries rest

/-- The finished tables of an array. -/
def finishElements : List (List (String × Node)) → List Toml
  | [] => []
  | entries :: rest => .table (finishEntries entries) :: finishElements rest

end

/-- The document that statements make, unless they contradict each other. -/
def ofStatements (statements : List Statement) : Option Toml := do
  let draft ← statements.foldlM Draft.add ⟨[], []⟩
  return .table (finishEntries draft.root)

/-- The table that the pairs between braces make. -/
def inlineTable (pairs : List (List String × String × Toml)) : Option Toml := do
  let entries ← pairs.foldlM (fun entries p => addPair p.1 p.2.1 (.value p.2.2) false entries) []
  return .table (finishEntries entries)

end Toml

end Telemetry
