import Grounded.Number.Double

/-!
# TOML values

Configuration files are written in TOML. A document is a table; tables that are written under headers,
in braces or by dotted keys are all alike once read. Dates and times are kept as text.
-/

namespace Grounded

/-- A TOML value. -/
inductive Toml where
  | string (text : String)
  | integer (n : Int)
  | float (x : Double)
  | bool (value : Bool)
  /-- A date, a time or both, in its regular form. -/
  | datetime (text : String)
  | array (items : List Toml)
  | table (entries : List (String × Toml))

namespace Toml

/-- Integers are of 64 bits with a sign. -/
def integerBound : Nat := 0x8000000000000000

/-- The text of a string. -/
def text? : Toml → Option String
  | string text => some text
  | _ => none

/-- The integer, if it is not negative and below `bound`. -/
def nat? (bound : Nat) : Toml → Option Nat
  | integer n => if 0 ≤ n && n.toNat < bound then some n.toNat else none
  | _ => none

/-- The single nearest to a number. -/
def single? : Toml → Option Single
  | integer n => some (Decimal.toSingle ⟨n < 0, n.natAbs, 0⟩)
  | float x => some x.toSingle
  | _ => none

/-- The items of an array. -/
def elements? : Toml → Option (List Toml)
  | array items => some items
  | _ => none

/-- The key under which a date stands when it is taken for a table. -/
def datetimeKey : String := "$__toml_private_datetime"

/-- The entries of a table; a date is taken for a table with one entry. -/
def entries? : Toml → Option (List (String × Toml))
  | table entries => some entries
  | datetime text => some [(datetimeKey, string text)]
  | _ => none

/--
The fields of a record that are given, in the order of `names`. A record is a table, or an array of its
first fields in order; entries and items beyond the fields do not matter.
-/
def fields? (names : List String) : Toml → Option (List (Option Toml))
  | array items => some ((List.range names.length).map (items[·]?))
  | t => t.entries?.map fun entries => names.map fun name => List.lookup name entries

/-- The value that `read` finds in a field; the default if the field is not given. -/
def fieldOr {α : Type} (default : α) (read : Toml → Option α) : Option Toml → Option α
  | none => some default
  | some t => read t

end Toml

end Grounded
