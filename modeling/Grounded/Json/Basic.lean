import Grounded.Number.Double

/-!
# JSON values

A value as it is written: the members of an object in order, repeated keys included, and numbers as
exact decimals. A string whose escapes hold half of a surrogate pair stands for no text; such a string
does no harm where it is skipped.
-/

namespace Grounded

/-- A JSON value. -/
inductive Json where
  | null
  | bool (value : Bool)
  /-- A number; `whole` says that it is written without a fraction and without an exponent. -/
  | number (value : Decimal) (whole : Bool)
  | string (text : Option String)
  | array (items : List Json)
  | object (members : List (Option String × Json))

namespace Json

/-- The string of a text. -/
def ofText (text : String) : Json := .string (some text)

/-- The number of a natural number. -/
def ofNat (n : Nat) : Json := .number ⟨false, n, 0⟩ true

/-- The number of a finite single, in its shortest form. -/
def ofSingle (x : Single) : Json := .number x.shortest false

/-- The object with these members. -/
def ofFields (fields : List (String × Json)) : Json :=
  .object (fields.map fun (key, value) => (some key, value))

/-- The text of a string. -/
def text? : Json → Option String
  | .string text => text
  | _ => none

/-- The natural number below `bound` that is written without a fraction. -/
def nat? (bound : Nat) : Json → Option Nat
  | .number value whole =>
    if whole && !value.negative && value.digits < bound then some value.digits else none
  | _ => none

/-- The single nearest to the number, by way of a double. Numbers beyond the doubles have none. -/
def single? : Json → Option Single
  | .number value _ =>
    let x := Double.ofDecimal value
    if x.isFinite then some x.toSingle else none
  | _ => none

/-- The values of an array. -/
def elements? : Json → Option (List Json)
  | .array items => some items
  | _ => none

/-- The member of that key, if the object has exactly one; `none` if it has several. -/
def field? (members : List (Option String × Json)) (name : String) : Option (Option Json) :=
  match members.filter (·.1 == some name) with
  | [] => some none
  | [(_, value)] => some (some value)
  | _ => none

/--
The fields of a record, in the order of `names`. A record is an object, where no field stands twice
and other members do not matter, or an array of exactly the fields in order.
-/
def fields? (names : List String) : Json → Option (List (Option Json))
  | .object members =>
    if members.any (·.1.isNone) then none
    else names.mapM (field? members)
  | .array items => if items.length = names.length then some (items.map some) else none
  | _ => none

/-- The name of a constant: a string, or an object that maps the name to null. -/
def constant? : Json → Option String
  | .string text => text
  | .object [(key, .null)] => key
  | _ => none

end Json

end Grounded
