import Grounded.Html.Dom

/-!
# The state of the tree builder

The builder keeps the open elements, the formatting elements that go on across blocks, and the
insertion mode. This module has the steps from which the rules of the modes are made.
-/

namespace Grounded.Html

/-- Where in a page the builder is. -/
inductive Mode where
  | initial
  | beforeHtml
  | beforeHead
  | inHead
  | afterHead
  | inBody
  | text
  | inTable
  | inTableText
  | inCaption
  | inColumnGroup
  | inTableBody
  | inRow
  | inCell
  | inSelect
  | inSelectInTable
  | inTemplate
  | afterBody
  | inFrameset
  | afterFrameset
  | afterAfterBody
  | afterAfterFrameset
deriving DecidableEq, Repr

/-- An entry in the list of formatting elements. -/
inductive Formatting where
  /-- The start of a region that formatting does not leave. -/
  | marker
  /-- An element and the tag that it came from. -/
  | element (node : Nat) (tag : Tag)
deriving DecidableEq, Repr

/-- The state of the builder. -/
structure Builder where
  dom : Dom
  mode : Mode
  /-- The mode to return to after untagged text and after text in a table. -/
  returnMode : Mode
  /-- The modes of the open templates, the innermost first. -/
  templateModes : List Mode
  /-- Text in a table that has no place yet, in order. -/
  tableText : List (Bool × String)
  quirks : Bool
  /-- The open elements, the innermost first. -/
  stack : List Nat
  /-- The formatting elements, the last first. -/
  formatting : List Formatting
  head : Option Nat
  form : Option Nat
  /-- Whether a frameset may still take the place of the body. -/
  framesetOk : Bool
  /-- Whether a line feed that comes next is dropped. -/
  ignoreBreak : Bool
  /-- Whether content goes in front of the table that it stands in. -/
  fostering : Bool

/-- Steps of the builder. -/
abbrev Build := StateM Builder

/-- What is left to do after a rule. -/
inductive Next where
  /-- The token is used up. -/
  | done
  /-- The token is looked at again in a mode. -/
  | again (mode : Mode)
  /-- The token is used up, and the text after it is read in another way. -/
  | read (model : ContentModel)

namespace Builder

/-- The builder of a new page. -/
def start : Builder where
  dom := .start
  mode := .initial
  returnMode := .initial
  templateModes := []
  tableText := []
  quirks := false
  stack := []
  formatting := []
  head := none
  form := none
  framesetOk := true
  ignoreBreak := false
  fostering := false

/-- The vocabulary and the name of an element. -/
def nameOf (b : Builder) (i : Nat) : Vocabulary × String :=
  match (b.dom.node i).content with
  | .element vocabulary name => (vocabulary, name)
  | _ => (.html, "")

/-- Whether the node is one of the elements of HTML with these names. -/
def isAny (b : Builder) (names : List String) (i : Nat) : Bool :=
  let (vocabulary, name) := b.nameOf i
  vocabulary == .html && names.contains name

/-- The innermost open element; the document if none is open. -/
def current (b : Builder) : Nat := b.stack.headD 0

/-- The outermost open element. -/
def outermost (b : Builder) : Nat := b.stack.getLastD 0

/-- The body, if it is open as the second element. -/
def body? (b : Builder) : Option Nat :=
  match b.stack.reverse with
  | _ :: i :: _ => if b.isAny ["body"] i then some i else none
  | _ => none

end Builder

/-! ## Sets of elements -/

/-- Elements of MathML that hold ordinary text. -/
def isMathText : Vocabulary × String → Bool
  | (.mathml, name) => ["mi", "mo", "mn", "ms", "mtext"].contains name
  | _ => false

/-- Elements of SVG that hold ordinary markup. -/
def isSvgMarkup : Vocabulary × String → Bool
  | (.svg, name) => ["foreignObject", "desc", "title"].contains name
  | _ => false

/-- Elements of HTML that bound the scope of an end tag, beside the ones given. -/
def scopeNames : List String :=
  ["applet", "caption", "html", "table", "td", "th", "marquee", "object", "template"]

/-- The elements that bound a scope. -/
inductive Scope where
  | plain
  | listItem
  | button
  | table
  | select
deriving DecidableEq, Repr

/-- Whether the element bounds the scope. -/
def Scope.endsAt (scope : Scope) (element : Vocabulary × String) : Bool :=
  let general := isMathText element || isSvgMarkup element ||
    (element.1 == .html && scopeNames.contains element.2)
  match scope with
  | plain => general
  | listItem => general || (element.1 == .html && ["ol", "ul"].contains element.2)
  | button => general || element == (.html, "button")
  | table => element.1 == .html && ["html", "table", "template"].contains element.2
  | select => !(element.1 == .html && ["optgroup", "option"].contains element.2)

/-- Elements whose end tag may be left out. -/
def impliedEnds : List String :=
  ["dd", "dt", "li", "option", "optgroup", "p", "rb", "rp", "rt", "rtc"]

/-- Elements whose end tag may be left out where a template ends. -/
def thoroughImpliedEnds : List String :=
  impliedEnds ++ ["caption", "colgroup", "tbody", "td", "tfoot", "th", "thead", "tr"]

/-- The headings. -/
def headingNames : List String := ["h1", "h2", "h3", "h4", "h5", "h6"]

/-- The cells of a table. -/
def cellNames : List String := ["td", "th"]

/-- The elements that end tags of other elements do not close in passing. -/
def specialNames : List String :=
  ["address", "applet", "area", "article", "aside", "base", "basefont", "bgsound", "blockquote",
   "body", "br", "button", "caption", "center", "col", "colgroup", "dd", "details", "dir", "div",
   "dl", "dt", "embed", "fieldset", "figcaption", "figure", "footer", "form", "frame", "frameset",
   "h1", "h2", "h3", "h4", "h5", "h6", "head", "header", "hgroup", "hr", "html", "iframe", "img",
   "input", "isindex", "li", "link", "listing", "main", "marquee", "menu", "meta", "nav", "noembed",
   "noframes", "noscript", "object", "ol", "p", "param", "plaintext", "pre", "script", "section",
   "select", "source", "style", "summary", "table", "tbody", "td", "template", "textarea", "tfoot",
   "th", "thead", "title", "tr", "track", "ul", "wbr", "xmp"]

/-- The elements between which content of a table is out of place. -/
def tableParts : List String := ["table", "tbody", "tfoot", "thead", "tr"]

namespace Build

open Builder

/-! ## Looking at the state -/

/-- Whether the innermost open element is one of these. -/
def currentIs (names : List String) : Build Bool := do
  let b ← get
  return b.isAny names b.current

/-- Whether some element that meets `p` is open within the scope. -/
def inScope (scope : Scope) (p : Builder → Nat → Bool) : Build Bool := do
  let b ← get
  let reached := b.stack.dropWhile fun i => !p b i && !scope.endsAt (b.nameOf i)
  return reached.head?.any (p b)

/-- Whether one of these elements is open within the scope. -/
def anyInScope (scope : Scope) (names : List String) : Build Bool :=
  inScope scope fun b i => b.isAny names i

/-- Whether one of these elements is open. -/
def isOpen (names : List String) : Build Bool := do
  let b ← get
  return b.stack.any (b.isAny names)

/-! ## The open elements -/

/-- Opens an element that is in the tree already. -/
def push (i : Nat) : Build Unit := modify fun b => { b with stack := i :: b.stack }

/-- Closes the innermost element. -/
def pop : Build Unit := modify fun b => { b with stack := b.stack.tail }

/-- Closes elements up to and with the innermost of these; all of them if none of these is open. -/
def popUntil (names : List String) : Build Unit :=
  modify fun b => { b with stack := (b.stack.dropWhile fun i => !b.isAny names i).tail }

/-- Closes elements until the innermost is one of these. -/
def popTo (names : List String) : Build Unit :=
  modify fun b => { b with stack := b.stack.dropWhile fun i => !b.isAny names i }

/-- Takes an element out of the open ones. -/
def removeOpen (i : Nat) : Build Unit := modify fun b => { b with stack := b.stack.erase i }

/-- Closes elements whose end tag may be left out, as long as one of these is the innermost. -/
def closeImplied (names : List String) : Build Unit :=
  modify fun b => { b with stack := b.stack.dropWhile (b.isAny names) }

/-- Closes elements whose end tag may be left out, except those of that name. -/
def closeImpliedExcept (name : String) : Build Unit := closeImplied (impliedEnds.erase name)

/-- Closes an open paragraph with all that is in it. -/
def closeParagraph : Build Unit := do
  closeImpliedExcept "p"
  popUntil ["p"]

/-- Closes the paragraph in scope, if there is one. -/
def closeParagraphInScope : Build Unit := do
  if ← anyInScope .button ["p"] then closeParagraph

/-! ## Putting nodes into the tree -/

/-- A place for a new node. -/
inductive Place where
  /-- Behind the last child of a node. -/
  | last (parent : Nat)
  /-- In front of a table, or in the element around it if the table is in no tree. -/
  | aroundTable (table outside : Nat)

/-- The place of content that is put in front of the innermost open table. -/
def fosterPlace (b : Builder) : List Nat → Place
  | [] => .last b.outermost
  | i :: rest =>
    if b.isAny ["template"] i then .last i
    else if b.isAny ["table"] i then .aroundTable i (rest.headD 0)
    else fosterPlace b rest

/-- The place for a new node in `target`. -/
def placeIn (b : Builder) (target : Nat) : Place :=
  if b.fostering && b.isAny tableParts target then fosterPlace b b.stack else .last target

/-- Puts a node at a place. -/
def putAt (place : Place) (i : Nat) (d : Dom) : Dom :=
  match place with
  | .last parent => d.append parent i
  | .aroundTable table outside =>
    if (d.node table).parent.isSome then d.insertBefore table i else d.append outside i

/-- Puts text at a place. -/
def putTextAt (place : Place) (s : String) (d : Dom) : Dom :=
  match place with
  | .last parent => d.appendText parent s
  | .aroundTable table outside =>
    if (d.node table).parent.isSome then d.insertTextBefore table s else d.appendText outside s

/-- A new node outside the tree. -/
def create (content : NodeContent) : Build Nat :=
  modifyGet fun b =>
    let (i, dom) := b.dom.create content
    (i, { b with dom })

/-- Changes the document. -/
def changeDom (f : Builder → Dom → Dom) : Build Unit := modify fun b => { b with dom := f b b.dom }

/-- Puts text where the builder is. -/
def insertText (s : String) : Build Unit := changeDom fun b d => putTextAt (placeIn b b.current) s d

/-- Puts a comment where the builder is. -/
def insertComment : Build Unit := do
  let i ← create .comment
  changeDom fun b d => putAt (placeIn b b.current) i d

/-- Puts a comment at the end of a node. -/
def appendComment (parent : Nat) : Build Unit := do
  let i ← create .comment
  changeDom fun _ d => d.append parent i

/-- Puts a new element where the builder is, without opening it. -/
def insertClosed (vocabulary : Vocabulary) (name : String) : Build Nat := do
  let i ← create (.element vocabulary name)
  changeDom fun b d => putAt (placeIn b b.current) i d
  return i

/-- Puts a new element where the builder is and opens it. -/
def insertElement (vocabulary : Vocabulary) (name : String) : Build Nat := do
  let i ← insertClosed vocabulary name
  push i
  return i

/-- Opens a new element of HTML. -/
def insert (name : String) : Build Unit := discard (insertElement .html name)

/-- Puts a new element of HTML into the tree that has no content. -/
def insertEmpty (name : String) : Build Unit := discard (insertClosed .html name)

/-! ## The formatting elements -/

/-- Starts a region that formatting does not leave. -/
def pushMarker : Build Unit := modify fun b => { b with formatting := .marker :: b.formatting }

/-- The entries up to the last marker, the last one first. -/
def sinceMarker (b : Builder) : List (Nat × Tag) :=
  (b.formatting.takeWhile (· != .marker)).filterMap fun
    | .marker => none
    | .element i tag => some (i, tag)

/-- Forgets the entries up to and with the last marker. -/
def clearToMarker : Build Unit :=
  modify fun b => { b with formatting := (b.formatting.dropWhile (· != .marker)).tail }

/-- Whether the entry is of that node. -/
def isEntryOf (i : Nat) : Formatting → Bool
  | .marker => false
  | .element j _ => i == j

/-- Forgets the entry of a node. -/
def removeFormatting (i : Nat) : Build Unit :=
  modify fun b => { b with formatting := b.formatting.eraseP (isEntryOf i) }

/-- Replaces the entry of a node. -/
def replaceFormatting (i : Nat) (entry : Formatting) : Build Unit :=
  modify fun b =>
    { b with formatting := b.formatting.map fun e => if isEntryOf i e then entry else e }

/-- Whether the entry needs no new element: it is a marker, or its element is open. -/
def isSettled (b : Builder) : Formatting → Bool
  | .marker => true
  | .element i _ => b.stack.contains i

/-- Opens the formatting elements again that were closed with a block around them. -/
def reopenFormatting : Build Unit := do
  let b ← get
  let closed := (b.formatting.takeWhile fun e => !isSettled b e).reverse
  closed.forM fun
    | .marker => pure ()
    | .element i tag => do
      let j ← insertElement .html tag.name
      replaceFormatting i (.element j tag)

/-- Whether two tags open the same formatting: the order of attributes does not matter. -/
def sameFormatting (a b : Tag) : Bool :=
  a.name == b.name && a.attributes.length == b.attributes.length &&
    a.attributes.all b.attributes.contains

/-- Opens a formatting element. Of four alike, the first is forgotten. -/
def insertFormatting (tag : Tag) : Build Unit := do
  let alike := (sinceMarker (← get)).filter fun (_, t) => sameFormatting t tag
  if 3 ≤ alike.length then
    match alike.getLast? with
    | some (i, _) => removeFormatting i
    | none => pure ()
  let i ← insertElement .html tag.name
  modify fun b => { b with formatting := .element i tag :: b.formatting }

/-! ## End tags -/

/-- Closes the elements up to the innermost of that name, unless a special element is in the way. -/
def closeGeneric (name : String) : Build Unit := do
  let b ← get
  let reached := b.stack.dropWhile fun i => !b.isAny [name] i && !b.isAny specialNames i
  match reached with
  | i :: below =>
    if b.isAny [name] i then modify fun b => { b with stack := below }
  | [] => pure ()

/--
Walks from below the furthest block down to the formatting element: elements that do not format, and
all after the third, are taken out; the others get a copy, into which the last node moves. Gives the
elements that stay open, the innermost first, the last node, and the copy that the furthest block was
moved into, if there is one.
-/
def rebuild (count : Nat) (last : Nat) (copy : Option Nat) :
    List Nat → Build (List Nat × Nat × Option Nat)
  | [] => return ([], last, copy)
  | i :: rest => do
    let entry := (← get).formatting.find? (isEntryOf i)
    match entry with
    | some (.element _ tag) =>
      if 3 < count then
        removeFormatting i
        rebuild (count + 1) last copy rest
      else
        let j ← create (.element .html tag.name)
        replaceFormatting i (.element j tag)
        changeDom fun _ d => d.append j last
        let (kept, last, copy) ← rebuild (count + 1) j (copy.orElse fun _ => some j) rest
        return (j :: kept, last, copy)
    | _ => rebuild (count + 1) last copy rest

/-- The formatting entries with one put behind the entry of a node, and the entry of another taken out. -/
def moveEntry (entry : Formatting) (behind old : Nat) (entries : List Formatting) : List Formatting :=
  (entries.flatMap fun e => if isEntryOf behind e then [entry, e] else [e]).eraseP (isEntryOf old)

/--
The end tag of a formatting element whose region overlaps with blocks: the element is split so that it
ends where its tag stands and its rest is inside the block. Says whether there may be more to split.
-/
def adoptOnce (name : String) : Build Bool := do
  let b ← get
  match (sinceMarker b).find? fun (_, tag) => tag.name == name with
  | none =>
    closeGeneric name
    return false
  | some (target, tag) =>
    if !b.stack.contains target then
      removeFormatting target
      return false
    else if !(← inScope .plain fun _ i => i == target) then return false
    else
      let above := b.stack.takeWhile (· != target)
      let below := (b.stack.dropWhile (· != target)).tail
      match above.reverse.find? (b.isAny specialNames) with
      | none =>
        modify fun b => { b with stack := below }
        removeFormatting target
        return false
      | some block =>
        let inside := above.takeWhile (· != block)
        let between := (above.dropWhile (· != block)).tail
        let (kept, last, copy) ← rebuild 1 block none between
        modify fun b => { b with stack := inside ++ block :: kept ++ target :: below }
        changeDom fun _ d => d.detach last
        changeDom fun b d => putAt (placeIn b (below.headD 0)) last d
        let fresh ← create (.element .html tag.name)
        changeDom fun _ d => (d.moveChildren block fresh).append block fresh
        match copy with
        | none => replaceFormatting target (.element fresh tag)
        | some j =>
          modify fun b =>
            { b with formatting := moveEntry (.element fresh tag) j target b.formatting }
        modify fun b => { b with stack := inside ++ fresh :: block :: kept ++ below }
        return true

/-- Splits as often as needed, at most `rounds` times. -/
def adoptWithin (name : String) : Nat → Build Unit
  | 0 => pure ()
  | rounds + 1 => do
    if ← adoptOnce name then adoptWithin name rounds

/-- The end tag of a formatting element. -/
def adopt (name : String) : Build Unit := do
  let b ← get
  if b.isAny [name] b.current && !b.formatting.any (isEntryOf b.current) then pop
  else adoptWithin name 8

/-! ## Modes -/

/-- The mode that the open elements ask for. -/
def resetModeFrom (b : Builder) : List Nat → Mode
  | [] => .inBody
  | i :: rest =>
    let isLast := rest.isEmpty
    let (vocabulary, name) := b.nameOf i
    let byName : Option Mode :=
      if vocabulary != .html then none
      else
        match name with
        | "select" =>
          match rest.find? (b.isAny ["template", "table"]) with
          | some j => if b.isAny ["table"] j then some .inSelectInTable else some .inSelect
          | none => some .inSelect
        | "td" | "th" => if isLast then none else some .inCell
        | "tr" => some .inRow
        | "tbody" | "thead" | "tfoot" => some .inTableBody
        | "caption" => some .inCaption
        | "colgroup" => some .inColumnGroup
        | "table" => some .inTable
        | "template" => some (b.templateModes.headD .inBody)
        | "head" => if isLast then none else some .inHead
        | "body" => some .inBody
        | "frameset" => some .inFrameset
        | "html" => some (if b.head.isNone then .beforeHead else .afterHead)
        | _ => none
    match byName with
    | some mode => mode
    | none => resetModeFrom b rest

/-- The mode that the open elements ask for. -/
def resetMode : Build Mode := do
  let b ← get
  return resetModeFrom b b.stack

/-- Goes to a mode; the token is used up. -/
def go (mode : Mode) : Build Next := do
  modify fun b => { b with mode }
  return .done

/-- A frameset can no longer take the place of the body. -/
def noFrameset : Build Unit := modify fun b => { b with framesetOk := false }

/-- Opens an element whose text is not markup. -/
def insertUntagged (name : String) (model : ContentModel) : Build Next := do
  insert name
  modify fun b => { b with returnMode := b.mode, mode := .text }
  return .read model

end Build

end Grounded.Html
