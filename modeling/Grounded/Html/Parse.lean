import Grounded.Html.Rules
import Grounded.Html.Tokenizer

/-!
# Parsing pages

Tokenizer and tree builder together, as browsers do it: every text is a page. Scripts count as
enabled, so what stands in `noscript` is not markup, and templates have their content as children.
-/

namespace Grounded.Html.Build

open Builder

/-! ## Foreign content -/

/-- The start tags that end foreign content. -/
def breakoutNames : List String :=
  ["b", "big", "blockquote", "body", "br", "center", "code", "dd", "div", "dl", "dt", "em", "embed",
   "h1", "h2", "h3", "h4", "h5", "h6", "head", "hr", "i", "img", "li", "listing", "menu", "meta",
   "nobr", "ol", "p", "pre", "ruby", "s", "small", "span", "strong", "strike", "sub", "sup", "table",
   "tt", "u", "ul", "var"]

/-- Whether the start tag ends foreign content: a font does with an attribute of its own. -/
def breaksOut (tag : Tag) : Bool :=
  breakoutNames.contains tag.name ||
    (tag.name == "font" && tag.attributes.any fun (name, _) => ["color", "face", "size"].contains name)

/-- The name of an element of SVG; of the names that are not in lower case, only one has a meaning here. -/
def svgName (name : String) : String := if name == "foreignobject" then "foreignObject" else name

/-- Whether the token is for the rules of foreign content. -/
def isForeign (b : Builder) (token : Token) : Bool :=
  let element := b.nameOf b.current
  if b.stack.isEmpty || element.1 == .html then false
  else
    let isText :=
      match token with
      | .text .. | .null => true
      | _ => false
    match token with
    | .eof => false
    | .start tag =>
      !(isMathText element && !(["mglyph", "malignmark"].contains tag.name)) && !isSvgMarkup element &&
        !(element == (.mathml, "annotation-xml") && tag.name == "svg")
    | _ => !(isText && (isMathText element || isSvgMarkup element))

/-- Closes foreign elements until ordinary markup may stand. -/
def leaveForeign : Build Unit :=
  modify fun b =>
    { b with stack := b.stack.dropWhile fun i =>
        let element := b.nameOf i
        element.1 != .html && !isMathText element && !isSvgMarkup element }

/--
The open elements after an end tag in foreign content: up to the nearest element of HTML, one whose
name fits in any case is closed. `none` if the rules of the mode decide.
-/
def afterForeignEnd (b : Builder) (name : String) (first : Bool) : List Nat → Option (List Nat)
  | [] => some b.stack
  | [_] => some b.stack
  | i :: rest =>
    let (vocabulary, own) := b.nameOf i
    if !first && vocabulary == .html then none
    else if own.toList.map asciiLower == name.toList then some rest
    else afterForeignEnd b name false rest

/-- The rules of foreign content. -/
def foreign (token : Token) : Build Next := do
  let b ← get
  match token with
  | .null =>
    insertText "\ufffd"
    return .done
  | .text blank s =>
    if !blank then noFrameset
    insertText s
    return .done
  | .comment =>
    insertComment
    return .done
  | .start tag =>
    if breaksOut tag then
      leaveForeign
      rules b.mode token
    else
      let vocabulary := (b.nameOf b.current).1
      insertForeign vocabulary (if vocabulary == .svg then svgName tag.name else tag.name)
        tag.selfClosing
  | .stop name =>
    if name == "br" || name == "p" then
      leaveForeign
      rules b.mode token
    else
      match afterForeignEnd b name true b.stack with
      | some stack =>
        modify fun b => { b with stack }
        return .done
      | none => rules b.mode token
  | _ => return .done

/-! ## The loop -/

/-- Handles a token, in as many modes as it takes, and says how the text after it is read. -/
def processWithin (token : Token) : Nat → Build ContentModel
  | 0 => return .data
  | fuel + 1 => do
    let b ← get
    match ← if isForeign b token then foreign token else rules b.mode token with
    | .done => return .data
    | .again mode =>
      modify fun b => { b with mode }
      processWithin token fuel
    | .read model => return model

/--
Handles a token. Each time that it is handed on, an element is closed or the page gets further, so the
number of open elements bounds the rounds.
-/
def process (token : Token) : Build ContentModel := do
  processWithin token (4 * (← get).stack.length + 32)

/-- Handles a token of the text, where a line feed may have to be dropped. -/
def consume (token : Token) : Build ContentModel := do
  let ignoreBreak := (← get).ignoreBreak
  modify fun b => { b with ignoreBreak := false }
  match token with
  | .text blank s =>
    let s := if ignoreBreak && s.toList.head? == some '\n' then String.ofList s.toList.tail else s
    if s.isEmpty then return .data else process (.text blank s)
  | _ => process token

/-- Handles tokens in order; the last one says how to go on. -/
def consumeAll (model : ContentModel) : List Token → Build ContentModel
  | [] => return model
  | token :: tokens => do consumeAll (← consume token) tokens

/-- Whether a character data section may stand here. -/
def sectionsAllowed (b : Builder) : Bool := !b.stack.isEmpty && (b.nameOf b.current).1 != .html

/-- Reads the rest of a page. `fuel` is more than its length. -/
def readWithin (model : ContentModel) : Nat → List Char → Build Unit
  | 0, _ => pure ()
  | _, [] => discard (process .eof)
  | fuel + 1, s => do
    let (found, rest) := tokens model (sectionsAllowed (← get)) s
    let model ← consumeAll .data found
    readWithin model fuel rest

end Grounded.Html.Build

namespace Grounded.Html

/-- The page that a text stands for. -/
def parse (text : String) : Page :=
  let s := text.toList
  let s := normalizeBreaks (if s.head? == some '\ufeff' then s.tail else s)
  let (_, b) := (Build.readWithin .data (s.length + 1) s).run Builder.start
  b.dom.page

end Grounded.Html
