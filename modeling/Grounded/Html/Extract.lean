import Grounded.Chunk.Section
import Grounded.Html.Parse

/-!
# The text of pages

The content of a page is the text of its headings, paragraphs, list items, code and table cells, in
the order of their elements. Elements inside navigation, scripts and the like do not count. A text
node is trimmed, and the text of an element is that of all text nodes below it, joined by spaces.
-/

namespace Grounded.Html

open Text

/-- The elements that start a section. -/
def sectionNames : List String := ["h1", "h2", "h3"]

/-- The elements whose text is collected. -/
def contentNames : List String := sectionNames ++ ["p", "li", "pre", "code", "td"]

/-- The elements that nothing inside counts of. -/
def excludedNames : List String := ["script", "style", "nav", "footer", "header", "svg"]

mutual

/-- The trimmed texts of a node, in order, without the blank ones. -/
def Node.pieces : Node → List (List Char)
  | .text content =>
    match trim content with
    | [] => []
    | piece => [piece]
  | .element _ _ children => piecesOf children

/-- The trimmed texts of several nodes. -/
def piecesOf : List Node → List (List Char)
  | [] => []
  | n :: rest => n.pieces ++ piecesOf rest

end

/-- An element whose text counts. -/
structure ContentElement where
  serial : Nat
  name : String
  text : List Char
deriving DecidableEq, Repr

mutual

/-- The content elements of a node that is outside of all excluded elements. -/
def Node.content : Node → List ContentElement
  | .text _ => []
  | .element serial name children =>
    let own :=
      if contentNames.contains name then [⟨serial, name, joinWith [' '] (piecesOf children)⟩] else []
    own ++ if excludedNames.contains name then [] else contentOf children

/-- The content elements of several nodes that are outside of all excluded elements. -/
def contentOf : List Node → List ContentElement
  | [] => []
  | n :: rest => n.content ++ contentOf rest

end

/-- The content elements below the root of a tree that was cut off. -/
def Node.contentBelow : Node → List ContentElement
  | .text _ => []
  | .element _ name children => if excludedNames.contains name then [] else contentOf children

namespace Page

/-- The content elements of a page, in the order of their elements. -/
def elements (p : Page) : List ContentElement :=
  (contentOf p.document ++ p.detached.flatMap Node.contentBelow).mergeSort fun a b =>
    a.serial ≤ b.serial

/-- What an element contributes: headings always count, other text if it has more than `minFragment` characters. -/
def block? (minFragment : Nat) (e : ContentElement) : Option Block :=
  if sectionNames.contains e.name then some (.heading e.text)
  else if minFragment < e.text.length then some (.body e.text)
  else none

/-- The blocks of a page. -/
def blocks (minFragment : Nat) (p : Page) : List Block := p.elements.filterMap (block? minFragment)

end Page

/-- How pages are cut into chunks. -/
structure Extractor where
  segmenter : Segmenter
  /-- Pieces of at most this many characters are dropped. -/
  minChars : Nat
  /-- Paragraphs and the like of at most this many characters are dropped. -/
  minFragment : Nat

/-- The chunks of a page of that name, which also heads the text before the first heading. -/
def Extractor.chunks (e : Extractor) (page : Page) (name : String) : List Chunk :=
  chunkSections e.segmenter e.minChars name .docs
    (sections name.toList (page.blocks e.minFragment))

end Grounded.Html
