import Grounded.Html.Builder

/-!
# The rules of the insertion modes

What each kind of token does in each mode. A mode may hand a token on to the rules of another; the
rules stand in such an order that each refers only to those before it.
-/

namespace Grounded.Html.Build

open Builder

/-! ## Outside the body -/

/-- Elements of the head that are also welcome elsewhere. -/
def headNames : List String :=
  ["base", "basefont", "bgsound", "link", "meta", "noframes", "script", "style", "template", "title"]

/-- The end tags that do not pass unheard before the body. -/
def earlyEnds : List String := ["head", "body", "html", "br"]

/-- Starts the root element. -/
def createRoot : Build Unit := do
  let i ← create (.element .html "html")
  push i
  changeDom fun _ d => d.append 0 i

/-- Before the document type. -/
def initial : Token → Build Next
  | .text true _ => return .done
  | .comment => do appendComment 0; return .done
  | .doctype d => do
    modify fun b => { b with quirks := d.isQuirky }
    go .beforeHtml
  | _ => do
    modify fun b => { b with quirks := true }
    return .again .beforeHtml

/-- Before the root element. -/
def beforeHtml : Token → Build Next
  | .text true _ | .doctype _ => return .done
  | .comment => do appendComment 0; return .done
  | .start ⟨"html", _, _⟩ => do
    createRoot
    go .beforeHead
  | .stop name => do
    if earlyEnds.contains name then
      createRoot
      return .again .beforeHead
    return .done
  | _ => do
    createRoot
    return .again .beforeHead

/-- Opens the head. -/
def openHead : Build Unit := do
  let i ← insertElement .html "head"
  modify fun b => { b with head := some i }

/-- Before the head. -/
def beforeHead : Token → Build Next
  | .text true _ | .doctype _ | .start ⟨"html", _, _⟩ => return .done
  | .comment => do insertComment; return .done
  | .start ⟨"head", _, _⟩ => do
    openHead
    go .inHead
  | .stop name => do
    if earlyEnds.contains name then
      openHead
      return .again .inHead
    return .done
  | _ => do
    openHead
    return .again .inHead

/-- The end tag of a template. -/
def endTemplate : Build Next := do
  if !(← isOpen ["template"]) then return .done
  closeImplied thoroughImpliedEnds
  popUntil ["template"]
  clearToMarker
  modify fun b => { b with templateModes := b.templateModes.tail }
  go (← resetMode)

/-- The start tag of an element of the head. -/
def startInHead (tag : Tag) : Build Next := do
  match tag.name with
  | "title" => insertUntagged "title" (.rcdata "title")
  | "noframes" | "style" | "noscript" => insertUntagged tag.name (.rawText tag.name)
  | "script" => insertUntagged "script" .script
  | "template" =>
    insert "template"
    pushMarker
    noFrameset
    modify fun b => { b with templateModes := .inTemplate :: b.templateModes }
    go .inTemplate
  | name =>
    insertEmpty name
    return .done

/-- In the head. -/
def inHead : Token → Build Next
  | .text true s => do insertText s; return .done
  | .comment => do insertComment; return .done
  | .doctype _ => return .done
  | .start tag => do
    if tag.name == "html" || tag.name == "head" then return .done
    if headNames.contains tag.name || tag.name == "noscript" then startInHead tag
    else
      pop
      return .again .afterHead
  | .stop name => do
    if name == "template" then endTemplate
    else if name == "head" then
      pop
      go .afterHead
    else if earlyEnds.contains name then
      pop
      return .again .afterHead
    else return .done
  | _ => do
    pop
    return .again .afterHead

/-- A tag of the head that comes late: it still goes into the head. -/
def lateInHead (tag : Tag) : Build Next := do
  match (← get).head with
  | none => return .done
  | some head =>
    push head
    let next ← startInHead tag
    removeOpen head
    return next

/-- Between head and body. -/
def afterHead : Token → Build Next
  | .text true s => do insertText s; return .done
  | .comment => do insertComment; return .done
  | .doctype _ => return .done
  | .start tag => do
    if tag.name == "html" || tag.name == "head" then return .done
    if tag.name == "body" then
      insert "body"
      noFrameset
      go .inBody
    else if tag.name == "frameset" then
      insert "frameset"
      go .inFrameset
    else if headNames.contains tag.name then lateInHead tag
    else
      insert "body"
      return .again .inBody
  | .stop name => do
    if name == "template" then endTemplate
    else if name != "head" && earlyEnds.contains name then
      insert "body"
      return .again .inBody
    else return .done
  | _ => do
    insert "body"
    return .again .inBody

/-! ## In the body -/

/-- Elements that close a paragraph and hold blocks. -/
def blockNames : List String :=
  ["address", "article", "aside", "blockquote", "center", "details", "dialog", "dir", "div", "dl",
   "fieldset", "figcaption", "figure", "footer", "header", "hgroup", "main", "menu", "nav", "ol",
   "search", "section", "summary", "ul"]

/-- Elements that format text. -/
def formattingNames : List String :=
  ["b", "big", "code", "em", "font", "i", "s", "small", "strike", "strong", "tt", "u"]

/-- Elements that bound formatting. -/
def boundingNames : List String := ["applet", "marquee", "object"]

/-- Elements of a table that have no place in ordinary content. -/
def tableOnlyNames : List String :=
  ["caption", "col", "colgroup", "frame", "head", "tbody", "td", "tfoot", "th", "thead", "tr"]

/-- Whether the tag is of an input that is not shown. -/
def isHiddenInput (tag : Tag) : Bool :=
  tag.name == "input" && tag.attributes.any fun (name, value) =>
    name == "type" && value.toList.map asciiLower == "hidden".toList

/-- Closes the list item or definition before a new one. -/
def closeItem (names : List String) : Build Unit := do
  let b ← get
  let stopping := specialNames.filter fun n => !(["address", "div", "p"].contains n)
  let reached := b.stack.dropWhile fun i => !b.isAny names i && !b.isAny stopping i
  match reached.head?.filter (b.isAny names) with
  | some i =>
    let name := (b.nameOf i).2
    closeImpliedExcept name
    popUntil [name]
  | none => pure ()

/-- The end tag of an element that has to be in scope. -/
def closeInScope (scope : Scope) (name : String) : Build Unit := do
  if ← anyInScope scope [name] then
    closeImplied impliedEnds
    popUntil [name]

/-- Puts a foreign element into the tree, and opens it unless its tag closes it. -/
def insertForeign (vocabulary : Vocabulary) (name : String) (selfClosing : Bool) : Build Next := do
  if selfClosing then discard (insertClosed vocabulary name)
  else discard (insertElement vocabulary name)
  return .done

/-- The start tag of a link: one that is open is closed first. -/
def startLink (tag : Tag) : Build Next := do
  let b ← get
  match (sinceMarker b).find? fun (i, _) => b.isAny ["a"] i with
  | some (i, _) =>
    adopt "a"
    removeFormatting i
    removeOpen i
  | none => pure ()
  reopenFormatting
  insertFormatting tag
  return .done

/-- The start tag of a frameset in the body, which it replaces if nothing is shown there yet. -/
def startFrameset : Build Next := do
  let b ← get
  match b.framesetOk, b.body? with
  | true, some body =>
    changeDom fun _ d => d.detach body
    modify fun b => { b with stack := [b.outermost] }
    insert "frameset"
    go .inFrameset
  | _, _ => return .done

/-- The start tag of a selection list. -/
def startSelect : Build Next := do
  reopenFormatting
  insert "select"
  noFrameset
  let mode := (← get).mode
  let inTable := [Mode.inTable, .inCaption, .inTableBody, .inRow, .inCell].contains mode
  go (if inTable then .inSelectInTable else .inSelect)

/-- An element without content that counts as shown. -/
def insertShown (name : String) : Build Next := do
  reopenFormatting
  insertEmpty name
  noFrameset
  return .done

/-- A start tag in the body. -/
def startInBody (tag : Tag) : Build Next := do
  let name := tag.name
  if headNames.contains name then startInHead tag
  else if blockNames.contains name || name == "p" then
    closeParagraphInScope
    insert name
    return .done
  else if headingNames.contains name then
    closeParagraphInScope
    if ← currentIs headingNames then pop
    insert name
    return .done
  else if formattingNames.contains name then
    reopenFormatting
    insertFormatting tag
    return .done
  else if boundingNames.contains name then
    reopenFormatting
    insert name
    pushMarker
    noFrameset
    return .done
  else if tableOnlyNames.contains name then return .done
  else
    match name with
    | "html" => return .done
    | "body" => do
      let b ← get
      if b.body?.isSome && !(← isOpen ["template"]) then noFrameset
      return .done
    | "frameset" => startFrameset
    | "pre" | "listing" =>
      closeParagraphInScope
      insert name
      modify fun b => { b with ignoreBreak := true, framesetOk := false }
      return .done
    | "form" =>
      let inTemplate ← isOpen ["template"]
      if (← get).form.isSome && !inTemplate then return .done
      closeParagraphInScope
      let i ← insertElement .html "form"
      if !inTemplate then modify fun b => { b with form := some i }
      return .done
    | "li" | "dd" | "dt" =>
      noFrameset
      closeItem (if name == "li" then ["li"] else ["dd", "dt"])
      closeParagraphInScope
      insert name
      return .done
    | "plaintext" =>
      closeParagraphInScope
      insert name
      return .read .plaintext
    | "button" =>
      if ← anyInScope .plain ["button"] then
        closeImplied impliedEnds
        popUntil ["button"]
      reopenFormatting
      insert name
      noFrameset
      return .done
    | "a" => startLink tag
    | "nobr" =>
      reopenFormatting
      if ← anyInScope .plain ["nobr"] then
        adopt "nobr"
        reopenFormatting
      insertFormatting tag
      return .done
    | "table" =>
      if !(← get).quirks then closeParagraphInScope
      insert name
      noFrameset
      go .inTable
    | "area" | "br" | "embed" | "img" | "keygen" | "wbr" => insertShown name
    | "image" => insertShown "img"
    | "input" =>
      reopenFormatting
      insertEmpty name
      if !isHiddenInput tag then noFrameset
      return .done
    | "param" | "source" | "track" =>
      insertEmpty name
      return .done
    | "hr" =>
      closeParagraphInScope
      insertEmpty name
      noFrameset
      return .done
    | "textarea" =>
      modify fun b => { b with ignoreBreak := true, framesetOk := false }
      insertUntagged name (.rcdata name)
    | "xmp" =>
      closeParagraphInScope
      reopenFormatting
      noFrameset
      insertUntagged name (.rawText name)
    | "iframe" =>
      noFrameset
      insertUntagged name (.rawText name)
    | "noembed" | "noscript" => insertUntagged name (.rawText name)
    | "select" => startSelect
    | "optgroup" | "option" =>
      if ← currentIs ["option"] then pop
      reopenFormatting
      insert name
      return .done
    | "rb" | "rtc" =>
      if ← anyInScope .plain ["ruby"] then closeImplied impliedEnds
      insert name
      return .done
    | "rp" | "rt" =>
      if ← anyInScope .plain ["ruby"] then closeImpliedExcept "rtc"
      insert name
      return .done
    | "math" => insertForeign .mathml name tag.selfClosing
    | "svg" => insertForeign .svg name tag.selfClosing
    | _ =>
      reopenFormatting
      insert name
      return .done

/-- The end tag of a form. -/
def endForm : Build Unit := do
  if ← isOpen ["template"] then
    if ← anyInScope .plain ["form"] then
      closeImplied impliedEnds
      popUntil ["form"]
  else
    match (← get).form with
    | none => pure ()
    | some form =>
      modify fun b => { b with form := none }
      if ← inScope .plain fun _ i => i == form then
        closeImplied impliedEnds
        removeOpen form

/-- An end tag in the body. -/
def endInBody (name : String) : Build Next := do
  if name == "template" then endTemplate
  else if blockNames.contains name || ["button", "listing", "pre"].contains name then
    closeInScope .plain name
    return .done
  else if headingNames.contains name then
    if ← anyInScope .plain headingNames then
      closeImplied impliedEnds
      popUntil headingNames
    return .done
  else if formattingNames.contains name || name == "a" || name == "nobr" then
    adopt name
    return .done
  else if boundingNames.contains name then
    if ← anyInScope .plain [name] then
      closeInScope .plain name
      clearToMarker
    return .done
  else
    match name with
    | "body" => if ← anyInScope .plain ["body"] then go .afterBody else return .done
    | "html" => if ← anyInScope .plain ["body"] then return .again .afterBody else return .done
    | "form" =>
      endForm
      return .done
    | "p" =>
      if !(← anyInScope .button ["p"]) then insert "p"
      closeParagraph
      return .done
    | "li" | "dd" | "dt" =>
      if ← anyInScope (if name == "li" then .listItem else .plain) [name] then
        closeImpliedExcept name
        popUntil [name]
      return .done
    | "br" => insertShown "br"
    | _ =>
      closeGeneric name
      return .done

/-- The end of the page in a template. -/
def endOfPageInTemplate : Build Next := do
  if !(← isOpen ["template"]) then return .done
  popUntil ["template"]
  clearToMarker
  modify fun b => { b with templateModes := b.templateModes.tail }
  return .again (← resetMode)

/-- In the body. -/
def inBody : Token → Build Next
  | .null | .doctype _ => return .done
  | .text blank s => do
    reopenFormatting
    if !blank then noFrameset
    insertText s
    return .done
  | .comment => do insertComment; return .done
  | .start tag => startInBody tag
  | .stop name => endInBody name
  | .eof => do
    if (← get).templateModes.isEmpty then return .done
    endOfPageInTemplate

/-- In untagged text. -/
def inText : Token → Build Next
  | .text _ s => do insertText s; return .done
  | .eof => do
    pop
    return .again (← get).returnMode
  | .stop _ => do
    pop
    go (← get).returnMode
  | _ => return .done

/-! ## In tables -/

/-- Handles a token by the rules of the body, with its content put in front of the table. -/
def fosterInBody (token : Token) : Build Next := do
  modify fun b => { b with fostering := true }
  let next ← inBody token
  modify fun b => { b with fostering := false }
  return next

/-- Text in a table: it is held back if nothing but parts of the table may stand here. -/
def textInTable (token : Token) : Build Next := do
  if ← currentIs tableParts then
    modify fun b => { b with returnMode := b.mode }
    return .again .inTableText
  fosterInBody token

/-- A start tag in a table. -/
def startInTable (tag : Tag) : Build Next := do
  let clear : Build Unit := popTo ["html", "table", "template"]
  match tag.name with
  | "caption" =>
    clear
    pushMarker
    insert "caption"
    go .inCaption
  | "colgroup" =>
    clear
    insert "colgroup"
    go .inColumnGroup
  | "col" =>
    clear
    insert "colgroup"
    return .again .inColumnGroup
  | "tbody" | "tfoot" | "thead" =>
    clear
    insert tag.name
    go .inTableBody
  | "td" | "th" | "tr" =>
    clear
    insert "tbody"
    return .again .inTableBody
  | "table" =>
    if ← anyInScope .table ["table"] then
      popUntil ["table"]
      return .again (← resetMode)
    return .done
  | "style" | "script" | "template" => startInHead tag
  | "input" =>
    if isHiddenInput tag then
      insertEmpty "input"
      return .done
    fosterInBody (.start tag)
  | "form" =>
    if !(← isOpen ["template"]) && (← get).form.isNone then
      let i ← insertClosed .html "form"
      modify fun b => { b with form := some i }
    return .done
  | _ => fosterInBody (.start tag)

/-- In a table. -/
def inTable : Token → Build Next
  | .text blank s => textInTable (.text blank s)
  | .null => textInTable .null
  | .comment => do insertComment; return .done
  | .doctype _ => return .done
  | .start tag => startInTable tag
  | .stop name => do
    if name == "template" then endTemplate
    else if name == "table" then
      if ← anyInScope .table ["table"] then
        popUntil ["table"]
        go (← resetMode)
      else return .done
    else if ["body", "caption", "col", "colgroup", "html", "tbody", "td", "tfoot", "th", "thead",
        "tr"].contains name then
      return .done
    else fosterInBody (.stop name)
  | .eof => inBody .eof

/--
Text that is held back in a table: blanks stay, and with anything else it goes in front of it. A document
type does not part the text.
-/
def inTableText (token : Token) : Build Next := do
  match token with
  | .null | .doctype _ => return .done
  | .text blank s =>
    modify fun b => { b with tableText := b.tableText ++ [(blank, s)] }
    return .done
  | _ =>
    let held := (← get).tableText
    modify fun b => { b with tableText := [] }
    if held.all (·.1) then held.forM fun (_, s) => insertText s
    else held.forM fun (blank, s) => discard (fosterInBody (.text blank s))
    return .again (← get).returnMode

/-- The parts of a table whose start tag ends a caption or a cell. -/
def rowNames : List String :=
  ["caption", "col", "colgroup", "tbody", "td", "tfoot", "th", "thead", "tr"]

/-- In the caption of a table. -/
def inCaption (token : Token) : Build Next := do
  let close (next : Build Next) : Build Next := do
    if ← anyInScope .table ["caption"] then
      closeImplied impliedEnds
      popUntil ["caption"]
      clearToMarker
      next
    else return .done
  match token with
  | .start tag =>
    if rowNames.contains tag.name then close (return .again .inTable) else inBody token
  | .stop "table" => close (return .again .inTable)
  | .stop "caption" => close (go .inTable)
  | .stop name =>
    if ["body", "col", "colgroup", "html", "tbody", "td", "tfoot", "th", "thead", "tr"].contains name
    then return .done
    else inBody token
  | _ => inBody token

/-- In a group of columns. -/
def inColumnGroup (token : Token) : Build Next := do
  let leave (next : Build Next) : Build Next := do
    if ← currentIs ["colgroup"] then
      pop
      next
    else return .done
  match token with
  | .text true s =>
    insertText s
    return .done
  | .comment =>
    insertComment
    return .done
  | .doctype _ | .start ⟨"html", _, _⟩ | .stop "col" => return .done
  | .start ⟨"col", _, _⟩ =>
    insertEmpty "col"
    return .done
  | .stop "colgroup" => leave (go .inTable)
  | .start ⟨"template", attributes, selfClosing⟩ => startInHead ⟨"template", attributes, selfClosing⟩
  | .stop "template" => endTemplate
  | .eof => inBody .eof
  | _ => leave (return .again .inTable)

/-- In the body of a table. -/
def inTableBody (token : Token) : Build Next := do
  let clear : Build Unit := popTo ["tbody", "tfoot", "thead", "template", "html"]
  let close (next : Build Next) : Build Next := do
    if ← anyInScope .table ["table", "tbody", "tfoot"] then
      clear
      pop
      next
    else return .done
  match token with
  | .start tag =>
    match tag.name with
    | "tr" =>
      clear
      insert "tr"
      go .inRow
    | "th" | "td" =>
      clear
      insert "tr"
      return .again .inRow
    | "caption" | "col" | "colgroup" | "tbody" | "tfoot" | "thead" => close (return .again .inTable)
    | _ => inTable token
  | .stop name =>
    match name with
    | "tbody" | "tfoot" | "thead" =>
      if ← anyInScope .table [name] then
        clear
        pop
        go .inTable
      else return .done
    | "table" => close (return .again .inTable)
    | "body" | "caption" | "col" | "colgroup" | "html" | "td" | "th" | "tr" => return .done
    | _ => inTable token
  | _ => inTable token

/-- In a row of a table. -/
def inRow (token : Token) : Build Next := do
  let clear : Build Unit := popTo ["tr", "template", "html"]
  let close (next : Build Next) : Build Next := do
    if ← anyInScope .table ["tr"] then
      clear
      pop
      next
    else return .done
  match token with
  | .start tag =>
    match tag.name with
    | "th" | "td" =>
      clear
      insert tag.name
      pushMarker
      go .inCell
    | "caption" | "col" | "colgroup" | "tbody" | "tfoot" | "thead" | "tr" =>
      close (return .again .inTableBody)
    | _ => inTable token
  | .stop name =>
    match name with
    | "tr" => close (go .inTableBody)
    | "table" => close (return .again .inTableBody)
    | "tbody" | "tfoot" | "thead" =>
      if ← anyInScope .table [name] then close (return .again .inTableBody) else return .done
    | "body" | "caption" | "col" | "colgroup" | "html" | "td" | "th" => return .done
    | _ => inTable token
  | _ => inTable token

/-- In a cell of a table. -/
def inCell (token : Token) : Build Next := do
  let closeCell : Build Next := do
    closeImplied impliedEnds
    popUntil cellNames
    clearToMarker
    return .again .inRow
  match token with
  | .start tag =>
    if rowNames.contains tag.name then
      if ← anyInScope .table cellNames then closeCell else return .done
    else inBody token
  | .stop name =>
    if cellNames.contains name then
      if ← anyInScope .table [name] then
        closeImplied impliedEnds
        popUntil [name]
        clearToMarker
        go .inRow
      else return .done
    else if ["body", "caption", "col", "colgroup", "html"].contains name then return .done
    else if tableParts.contains name then
      if ← anyInScope .table [name] then closeCell else return .done
    else inBody token
  | _ => inBody token

/-! ## In selection lists -/

/-- In a selection list. -/
def inSelect (token : Token) : Build Next := do
  match token with
  | .null | .doctype _ => return .done
  | .text _ s =>
    insertText s
    return .done
  | .comment =>
    insertComment
    return .done
  | .start tag =>
    match tag.name with
    | "option" =>
      if ← currentIs ["option"] then pop
      insert "option"
      return .done
    | "optgroup" =>
      if ← currentIs ["option"] then pop
      if ← currentIs ["optgroup"] then pop
      insert "optgroup"
      return .done
    | "hr" =>
      if ← currentIs ["option"] then pop
      if ← currentIs ["optgroup"] then pop
      insertEmpty "hr"
      return .done
    | "select" =>
      if ← anyInScope .select ["select"] then
        popUntil ["select"]
        go (← resetMode)
      else return .done
    | "input" | "keygen" | "textarea" =>
      if ← anyInScope .select ["select"] then
        popUntil ["select"]
        return .again (← resetMode)
      else return .done
    | "script" | "template" => startInHead tag
    | _ => return .done
  | .stop name =>
    match name with
    | "optgroup" =>
      let b ← get
      if b.isAny ["option"] b.current && (b.stack.tail.head?.any (b.isAny ["optgroup"])) then pop
      if ← currentIs ["optgroup"] then pop
      return .done
    | "option" =>
      if ← currentIs ["option"] then pop
      return .done
    | "select" =>
      if ← anyInScope .select ["select"] then
        popUntil ["select"]
        go (← resetMode)
      else return .done
    | "template" => endTemplate
    | _ => return .done
  | .eof => inBody .eof

/-- In a selection list in a table. -/
def inSelectInTable (token : Token) : Build Next := do
  let names := ["caption", "table", "tbody", "tfoot", "thead", "tr", "td", "th"]
  match token with
  | .start tag =>
    if names.contains tag.name then
      popUntil ["select"]
      return .again (← resetMode)
    else inSelect token
  | .stop name =>
    if names.contains name then
      if ← anyInScope .table [name] then
        popUntil ["select"]
        return .again (← resetMode)
      else return .done
    else inSelect token
  | _ => inSelect token

/-! ## In templates, framesets and at the end -/

/-- In a template, before it is known what the template is for. -/
def inTemplate (token : Token) : Build Next := do
  let become (mode : Mode) : Build Next := do
    modify fun b => { b with templateModes := mode :: b.templateModes.tail }
    return .again mode
  match token with
  | .text .. | .comment => inBody token
  | .start tag =>
    if headNames.contains tag.name then startInHead tag
    else
      match tag.name with
      | "caption" | "colgroup" | "tbody" | "tfoot" | "thead" => become .inTable
      | "col" => become .inColumnGroup
      | "tr" => become .inTableBody
      | "td" | "th" => become .inRow
      | _ => become .inBody
  | .stop "template" => endTemplate
  | .eof => endOfPageInTemplate
  | _ => return .done

/-- Behind the body. -/
def afterBody (token : Token) : Build Next := do
  match token with
  | .text true _ => inBody token
  | .comment =>
    appendComment (← get).outermost
    return .done
  | .doctype _ | .start ⟨"html", _, _⟩ | .eof => return .done
  | .stop "html" => go .afterAfterBody
  | _ => return .again .inBody

/-- In a frameset. -/
def inFrameset (token : Token) : Build Next := do
  match token with
  | .text true s =>
    insertText s
    return .done
  | .comment =>
    insertComment
    return .done
  | .start tag =>
    match tag.name with
    | "frameset" =>
      insert "frameset"
      return .done
    | "frame" =>
      insertEmpty "frame"
      return .done
    | "noframes" => startInHead tag
    | _ => return .done
  | .stop "frameset" =>
    if (← get).stack.length = 1 then return .done
    pop
    if ← currentIs ["frameset"] then return .done
    go .afterFrameset
  | _ => return .done

/-- Behind a frameset. -/
def afterFrameset (token : Token) : Build Next := do
  match token with
  | .text true s =>
    insertText s
    return .done
  | .comment =>
    insertComment
    return .done
  | .stop "html" => go .afterAfterFrameset
  | .start ⟨"noframes", attributes, selfClosing⟩ => startInHead ⟨"noframes", attributes, selfClosing⟩
  | _ => return .done

/-- Behind the root element of a page with a body. -/
def afterAfterBody (token : Token) : Build Next := do
  match token with
  | .text true _ => inBody token
  | .comment =>
    appendComment 0
    return .done
  | .doctype _ | .start ⟨"html", _, _⟩ | .eof => return .done
  | _ => return .again .inBody

/-- Behind the root element of a page with a frameset. -/
def afterAfterFrameset (token : Token) : Build Next := do
  match token with
  | .text true _ => inBody token
  | .comment =>
    appendComment 0
    return .done
  | .start ⟨"noframes", attributes, selfClosing⟩ => startInHead ⟨"noframes", attributes, selfClosing⟩
  | _ => return .done

/-- The rules of a mode. -/
def rules : Mode → Token → Build Next
  | .initial => initial
  | .beforeHtml => beforeHtml
  | .beforeHead => beforeHead
  | .inHead => inHead
  | .afterHead => afterHead
  | .inBody => inBody
  | .text => inText
  | .inTable => inTable
  | .inTableText => inTableText
  | .inCaption => inCaption
  | .inColumnGroup => inColumnGroup
  | .inTableBody => inTableBody
  | .inRow => inRow
  | .inCell => inCell
  | .inSelect => inSelect
  | .inSelectInTable => inSelectInTable
  | .inTemplate => inTemplate
  | .afterBody => afterBody
  | .inFrameset => inFrameset
  | .afterFrameset => afterFrameset
  | .afterAfterBody => afterAfterBody
  | .afterAfterFrameset => afterAfterFrameset

end Grounded.Html.Build
