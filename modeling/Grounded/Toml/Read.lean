import Grounded.Toml.Scalar

/-!
# Reading TOML

A document is read in two steps: its text as a list of statements, and the statements as a table. The
second step has the rules on what may be defined twice and what may be added to.
-/

namespace Grounded.Toml

/-! ## Tables under construction -/

/-- What stands under a key while a document is put together. -/
inductive Entry where
  | value (t : Toml)
  /--
  A table. It is implicit if only headers or keys below it name it so far, and dotted if it comes from
  a dotted key.
  -/
  | table (implicit dotted : Bool) (entries : List (String × Entry))
  /-- The tables of an array, the last first. -/
  | tables (rows : List (List (String × Entry)))

/-- Entries of a table under construction. -/
abbrev Entries := List (String × Entry)

/-- The entries with the one of a key set. -/
def Entries.set (key : String) (e : Entry) : Entries → Entries
  | [] => [(key, e)]
  | (k, x) :: rest => if k == key then (k, e) :: rest else (k, x) :: Entries.set key e rest

mutual

/-- The finished value. -/
def Entry.finish : Entry → Toml
  | .value t => t
  | .table _ _ entries => .table (finishEntries entries)
  | .tables rows => .array (finishRows rows).reverse

/-- The finished entries of a table. -/
def finishEntries : List (String × Entry) → List (String × Toml)
  | [] => []
  | (key, e) :: rest => (key, e.finish) :: finishEntries rest

/-- The finished tables of an array. -/
def finishRows : List (List (String × Entry)) → List Toml
  | [] => []
  | row :: rest => .table (finishEntries row) :: finishRows rest

end

/--
Changes the table at a path with `f`, which also gets whether that table is dotted. Tables that are
missing on the way are created; values are not entered, and a dotted key enters implicit tables only.
-/
def alter (dotted : Bool) (f : Bool → Entries → Option Entries) (isDotted : Bool) :
    List String → Entries → Option Entries
  | [], entries => f isDotted entries
  | key :: path, entries =>
    match List.lookup key entries with
    | none => do
      let below ← alter dotted f dotted path []
      some (Entries.set key (.table true dotted below) entries)
    | some (.value _) => none
    | some (.tables []) => none
    | some (.tables (row :: rows)) => do
      let row ← alter dotted f false path row
      some (Entries.set key (.tables (row :: rows)) entries)
    | some (.table implicit isDotted below) =>
      if dotted && !implicit then none
      else do
        let below ← alter dotted f isDotted path below
        some (Entries.set key (.table implicit isDotted below) entries)

/-- Adds a value under a key that is not taken; a dotted key only adds to tables of dotted keys. -/
def setValue (keys : List String) (t : Toml) (entries : Entries) : Option Entries :=
  match keys.getLast? with
  | none => none
  | some key =>
    let path := keys.dropLast
    alter true (fun isDotted entries =>
      if isDotted == path.isEmpty || (List.lookup key entries).isSome then none
      else some (Entries.set key (.value t) entries)) false path entries

/-! ## Values -/

/-- How deep arrays and inline tables may be nested, and how many parts a key may have. -/
def maxDepth : Nat := 80

/-- Drops blanks, line breaks and comments. A character that may not stand in a comment ends them. -/
def dropFiller : Nat → List Char → List Char
  | 0, s => s
  | fuel + 1, s =>
    match dropBlanks s with
    | '#' :: rest => dropFiller fuel (rest.dropWhile isPlain)
    | rest =>
      match lineBreak? rest with
      | some rest => dropFiller fuel rest
      | none => rest

mutual

/-- A value. -/
def value? : Nat → Nat → List Char → Option (Toml × List Char)
  | 0, _, _ => none
  | fuel + 1, depth, s =>
    match s with
    | [] => none
    | '[' :: rest =>
      if maxDepth ≤ depth + 1 then none
      else (items? fuel (depth + 1) rest).map fun (items, rest) => (.array items, rest)
    | '\x7b' :: rest =>
      if maxDepth ≤ depth + 1 then none
      else
        match dropBlanks rest with
        | '\x7d' :: rest => some (.table [], rest)
        | rest => (members? fuel (depth + 1) [] rest).map fun (entries, rest) =>
            (.table (finishEntries entries), rest)
    | c :: _ =>
      if c == '"' || c == '\'' then (string? s).map fun (text, rest) => (.string text, rest)
      else if "true".toList.isPrefixOf s then some (.bool true, s.drop 4)
      else if "false".toList.isPrefixOf s then some (.bool false, s.drop 5)
      else if looksLikeDate s then datetime? s
      else number? s

/-- The items of an array from the next one on, and what follows the closing bracket. -/
def items? : Nat → Nat → List Char → Option (List Toml × List Char)
  | 0, _, _ => none
  | fuel + 1, depth, s =>
    match dropFiller (s.length + 1) s with
    | ']' :: rest => some ([], rest)
    | s => do
      let (item, rest) ← value? fuel depth s
      match dropFiller (rest.length + 1) rest with
      | ',' :: rest =>
        let (items, rest) ← items? fuel depth rest
        some (item :: items, rest)
      | ']' :: rest => some ([item], rest)
      | _ => none

/-- The entries of an inline table from the next one on, and what follows the closing brace. -/
def members? : Nat → Nat → Entries → List Char → Option (Entries × List Char)
  | 0, _, _, _ => none
  | fuel + 1, depth, entries, s => do
    let (keys, rest) ← key? (maxDepth - 1) s
    let rest ← expect? '=' (dropBlanks rest)
    let (t, rest) ← value? fuel depth (dropBlanks rest)
    let entries ← setValue keys t entries
    match dropBlanks rest with
    | ',' :: rest => members? fuel depth entries rest
    | '\x7d' :: rest => some (entries, rest)
    | _ => none

end

/-! ## Statements -/

/-- A statement of a document. -/
inductive Statement where
  | assign (keys : List String) (value : Toml)
  /-- The header of a table. -/
  | table (path : List String)
  /-- The header of a further table of an array. -/
  | tables (path : List String)

/-- Whether the statement is no header. -/
def Statement.isAssign : Statement → Bool
  | assign .. => true
  | _ => false

/-- The text after the end of a line, where a comment may stand. -/
def lineEnd? (s : List Char) : Option (List Char) :=
  let rest :=
    match dropBlanks s with
    | '#' :: rest => rest.dropWhile isPlain
    | rest => rest
  if rest.isEmpty then some [] else lineBreak? rest

/-- A statement. -/
def statement? (s : List Char) : Option (Statement × List Char) :=
  match s with
  | '[' :: '[' :: rest => do
    let (path, rest) ← key? (maxDepth - 1) rest
    let rest ← expect? ']' (← expect? ']' (dropBlanks rest))
    some (.tables path, rest)
  | '[' :: rest => do
    let (path, rest) ← key? (maxDepth - 1) rest
    some (.table path, ← expect? ']' (dropBlanks rest))
  | _ => do
    let (keys, rest) ← key? (maxDepth - 1) s
    let rest ← expect? '=' (dropBlanks rest)
    let rest := dropBlanks rest
    let (t, rest) ← value? (2 * rest.length + 2) 0 rest
    some (.assign keys t, rest)

/-- The statements of a document. `fuel` is more than its length. -/
def statements? : Nat → List Char → Option (List Statement)
  | 0, _ => none
  | fuel + 1, s =>
    match dropBlanks s with
    | [] => some []
    | c :: rest =>
      if c == '#' || (lineBreak? (c :: rest)).isSome then do statements? fuel (← lineEnd? (c :: rest))
      else do
        let (statement, rest) ← statement? (c :: rest)
        let rest ← lineEnd? rest
        let more ← statements? fuel rest
        some (statement :: more)

/-! ## Documents -/

/-- Adds the values of assignments to a table. -/
def assignAll (entries : Entries) : List Statement → Option Entries
  | .assign keys t :: rest => do assignAll (← setValue keys t entries) rest
  | _ => some entries

/-- Adds a table under a header, with the entries that `fill` gives it; it may have been named, but not opened. -/
def openTable (path : List String) (fill : Entries → Option Entries) (root : Entries) :
    Option Entries :=
  match path.getLast? with
  | none => none
  | some key =>
    alter false (fun _ entries => do
      let start ←
        match List.lookup key entries with
        | none => some []
        | some (.table true false below) => some below
        | some _ => none
      some (Entries.set key (.table false false (← fill start)) entries)) false path.dropLast root

/-- Adds a further table to an array of tables. -/
def openRow (path : List String) (fill : Entries → Option Entries) (root : Entries) : Option Entries :=
  match path.getLast? with
  | none => none
  | some key =>
    alter false (fun _ entries => do
      let rows ←
        match List.lookup key entries with
        | none => some []
        | some (.tables rows) => some rows
        | some _ => none
      some (Entries.set key (.tables ((← fill []) :: rows)) entries)) false path.dropLast root

/-- Adds all statements; the assignments behind a header belong to its table. -/
def build (root : Entries) : List Statement → Option Entries
  | [] => some root
  | statement :: rest => do
    let fill (entries : Entries) := assignAll entries (rest.takeWhile Statement.isAssign)
    let root ←
      match statement with
      | .assign keys t => setValue keys t root
      | .table path => openTable path fill root
      | .tables path => openRow path fill root
    build root (rest.dropWhile Statement.isAssign)
termination_by statements => statements.length
decreasing_by
  have := (List.dropWhile_sublist Statement.isAssign (l := rest)).length_le
  simp only [List.length_cons]; omega

/-- The table that a document holds, if it is well formed. -/
def parse? (text : String) : Option Toml := do
  let s := text.toList
  let s := if s.head? == some '\ufeff' then s.tail else s
  let statements ← statements? (s.length + 1) s
  let root ← assignAll [] (statements.takeWhile Statement.isAssign)
  let root ← build root (statements.dropWhile Statement.isAssign)
  some (.table (finishEntries root))

end Grounded.Toml
