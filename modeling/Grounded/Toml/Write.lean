import Grounded.Toml.Basic

/-!
# Writing TOML

A table is written with its own values first and its tables after them, each under a header. Arrays of
more than one item have one item a line. A string is written in the plainest form that can hold it.
-/

namespace Grounded.Toml

/-! ## Strings and keys -/

/-- The longest run of a character in a text. -/
def longestRun (c : Char) (s : List Char) : Nat :=
  (s.foldl (fun (best, run) d => if d == c then (max best (run + 1), run + 1) else (best, 0)) (0, 0)).1

/-- Whether the character needs an escape everywhere but in the middle of several lines. -/
def isControl (c : Char) : Bool :=
  (c.toNat < 0x20 && c != '\t' && c != '\n') || c.toNat == 0x7F

/-- The escape of a character. -/
def escapeChar (c : Char) : List Char :=
  match c with
  | '\x08' => ['\\', 'b']
  | '\t' => ['\\', 't']
  | '\n' => ['\\', 'n']
  | '\x0c' => ['\\', 'f']
  | '\r' => ['\\', 'r']
  | '"' => ['\\', '"']
  | '\\' => ['\\', '\\']
  | c =>
    if isControl c then
      ['\\', 'u', '0', '0', Nat.digitChar (c.toNat / 16), (Nat.digitChar (c.toNat % 16)).toUpper]
    else [c]

/-- The text for several lines: line feeds stand as they are, and so do up to two quotes in a row. -/
def escapeLines (quotes : Nat) : List Char → List Char
  | [] => []
  | '\n' :: rest => '\n' :: escapeLines 0 rest
  | '"' :: rest =>
    if quotes < 2 then '"' :: escapeLines (quotes + 1) rest else '\\' :: '"' :: escapeLines 0 rest
  | c :: rest => escapeChar c ++ escapeLines 0 rest

/-- A string on one line: plain or literal if it needs no escapes. -/
def quoteLine (text : String) : List Char :=
  let s := text.toList
  let controls := s.any isControl || s.contains '\n'
  if controls || (s.contains '\'' && (s.contains '\\' || s.contains '"')) ||
      !(s.contains '\\' || s.contains '"') then
    '"' :: s.flatMap escapeChar ++ ['"']
  else '\'' :: s ++ ['\'']

/-- A string: on one line, or on several if that saves escapes. -/
def quote (text : String) : List Char :=
  let s := text.toList
  let controls := s.any isControl
  let breaks := s.contains '\n'
  let slashes := s.contains '\\'
  let singles := longestRun '\'' s
  let doubles := longestRun '"' s
  let opening := if breaks then ['\n'] else []
  let three (c : Char) := [c, c, c]
  if !breaks && ((!slashes && doubles = 0) || (!controls && singles = 0)) then quoteLine text
  else if !controls && !slashes && doubles ≤ 2 then
    three '"' ++ opening ++ escapeLines 0 s ++ three '"'
  else if !controls && singles ≤ 2 then three '\'' ++ opening ++ s ++ three '\''
  else if breaks then three '"' ++ opening ++ escapeLines 0 s ++ three '"'
  else quoteLine text

/-- Whether the character may stand in a key without quotes. -/
def isBareChar (c : Char) : Bool := c.isAlphanum || c == '_' || c == '-'

/-- A key, quoted if needed. -/
def keyText (key : String) : List Char :=
  if !key.isEmpty && key.toList.all isBareChar then key.toList else quoteLine key

/-- A path of keys. -/
def pathText (path : List String) : List Char :=
  ['.'].intercalate (path.map keyText)

/-! ## Values -/

/-- A float: as few digits as tell it apart, and one decimal place if it is whole. -/
def floatText (x : Double) : String :=
  if x.isNaN then "nan"
  else if !x.isFinite then Decimal.sign x.isNegative ++ "inf"
  else
    let digits := x.shortest
    if digits.exponent < 0 then digits.plain else digits.plain ++ ".0"

mutual

/-- A value in place. -/
def valueText : Toml → List Char
  | .string text => quote text
  | .integer n => (toString n).toList
  | .float x => (floatText x).toList
  | .bool value => (toString value).toList
  | .datetime text => text.toList
  | .array items =>
    match items with
    | [] => ['[', ']']
    | [item] => '[' :: valueText item ++ [']']
    | items => '[' :: itemLines items ++ ['\n', ']']
  | .table entries => '\x7b' :: ' ' :: entryTexts entries ++ [' ', '\x7d']

/-- The items of an array, each on its line. -/
def itemLines : List Toml → List Char
  | [] => []
  | item :: items => "\n    ".toList ++ valueText item ++ ',' :: itemLines items

/-- The entries of a table in place. -/
def entryTexts : List (String × Toml) → List Char
  | [] => []
  | [(key, t)] => keyText key ++ " = ".toList ++ valueText t
  | (key, t) :: rest => keyText key ++ " = ".toList ++ valueText t ++ ", ".toList ++ entryTexts rest

end

/-! ## Tables -/

/-- Whether the value is a table. -/
def isTable : Toml → Bool
  | .table _ => true
  | _ => false

/-- Whether the value stands under headers: a table, or an array of tables. -/
def hasHeader : Toml → Bool
  | .table _ => true
  | .array items => !items.isEmpty && items.all isTable
  | _ => false

/-- The lines of the values that stand in a table itself. -/
def ownLines (entries : List (String × Toml)) : List Char :=
  (entries.filter fun (_, t) => !hasHeader t).flatMap fun (key, t) =>
    keyText key ++ " = ".toList ++ valueText t ++ ['\n']

mutual

/-- The blocks of a value under its path: a header with the lines below it, and the blocks below that. -/
def blocks (path : List String) : Toml → List (List Char)
  | .table entries =>
    let own := ownLines entries
    let head := if own.isEmpty && !entries.isEmpty then [] else ['[' :: pathText path ++ "]\n".toList ++ own]
    head ++ entryBlocks path entries
  | .array items => rowBlocks path items
  | _ => []

/-- The blocks of the entries of a table. -/
def entryBlocks (path : List String) : List (String × Toml) → List (List Char)
  | [] => []
  | (key, t) :: rest => (if hasHeader t then blocks (path ++ [key]) t else []) ++ entryBlocks path rest

/-- The blocks of the tables of an array. -/
def rowBlocks (path : List String) : List Toml → List (List Char)
  | [] => []
  | .table entries :: rest =>
    ("[[".toList ++ pathText path ++ "]]\n".toList ++ ownLines entries) :: entryBlocks path entries ++
      rowBlocks path rest
  | _ :: rest => rowBlocks path rest

end

/-- The document of a table. -/
def document (entries : List (String × Toml)) : String :=
  let own := ownLines entries
  let all := (if own.isEmpty then [] else [own]) ++ entryBlocks [] entries
  String.ofList (['\n'].intercalate all)

end Grounded.Toml
