/-!
# Page trees

A page is a tree of elements and text. Every element has a serial number, which counts the elements in
the order in which the page's markup brought them about.
-/

namespace Grounded.Html

/-- A node of a page. -/
inductive Node where
  | text (content : List Char)
  | element (serial : Nat) (name : String) (children : List Node)

/--
A parsed page. Beside the document there may be trees that were cut off while the page was read; what
is below their roots still counts.
-/
structure Page where
  document : List Node
  detached : List Node

end Grounded.Html
