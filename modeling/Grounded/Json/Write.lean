import Grounded.Json.Basic

/-!
# Writing JSON

The compact form has no blanks. The pretty form has one item or member a line, indented by two spaces
a level. A string that stands for no text is written as null.
-/

namespace Grounded.Json

/-- The character in a JSON string. -/
def escapeChar (c : Char) : List Char :=
  match c with
  | '"' => ['\\', '"']
  | '\\' => ['\\', '\\']
  | '\x08' => ['\\', 'b']
  | '\x0c' => ['\\', 'f']
  | '\n' => ['\\', 'n']
  | '\r' => ['\\', 'r']
  | '\t' => ['\\', 't']
  | c =>
    if c.toNat < 0x20 then
      ['\\', 'u', '0', '0', Nat.digitChar (c.toNat / 16), Nat.digitChar (c.toNat % 16)]
    else [c]

/-- The text between quotes. -/
def quote (text : String) : List Char := '"' :: text.toList.flatMap escapeChar ++ ['"']

/-- A string or what stands for it. -/
def quote? : Option String → List Char
  | some text => quote text
  | none => "null".toList

/-- The line break and the indentation of a level. -/
def breakLine (level : Nat) : List Char := '\n' :: List.replicate (2 * level) ' '

mutual

/-- The compact form. -/
def compact : Json → List Char
  | .null => "null".toList
  | .bool value => (if value then "true" else "false").toList
  | .number value _ => value.plain.toList
  | .string text => quote? text
  | .array items => '[' :: compactItems items ++ [']']
  | .object members => '\x7b' :: compactMembers members ++ ['\x7d']

/-- The items of an array, separated by commas. -/
def compactItems : List Json → List Char
  | [] => []
  | [item] => item.compact
  | item :: items => item.compact ++ ',' :: compactItems items

/-- The members of an object, separated by commas. -/
def compactMembers : List (Option String × Json) → List Char
  | [] => []
  | [(key, value)] => quote? key ++ ':' :: value.compact
  | (key, value) :: members => quote? key ++ ':' :: value.compact ++ ',' :: compactMembers members

end

mutual

/-- The pretty form, for a value that stands at a level of indentation. -/
def pretty (level : Nat) : Json → List Char
  | .array [] => ['[', ']']
  | .array items => '[' :: prettyItems (level + 1) items ++ breakLine level ++ [']']
  | .object [] => ['\x7b', '\x7d']
  | .object members => '\x7b' :: prettyMembers (level + 1) members ++ breakLine level ++ ['\x7d']
  | .null => "null".toList
  | .bool value => (if value then "true" else "false").toList
  | .number value _ => value.plain.toList
  | .string text => quote? text

/-- The items of an array, each on its line. -/
def prettyItems (level : Nat) : List Json → List Char
  | [] => []
  | [item] => breakLine level ++ item.pretty level
  | item :: items => breakLine level ++ item.pretty level ++ ',' :: prettyItems level items

/-- The members of an object, each on its line. -/
def prettyMembers (level : Nat) : List (Option String × Json) → List Char
  | [] => []
  | [(key, value)] => breakLine level ++ quote? key ++ ':' :: ' ' :: value.pretty level
  | (key, value) :: members =>
    breakLine level ++ quote? key ++ ':' :: ' ' :: value.pretty level ++
      ',' :: prettyMembers level members

end

end Grounded.Json
