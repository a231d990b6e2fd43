import Grounded.Html.Reference
import Grounded.Html.Token
import Grounded.Text.Find

/-!
# The tokenizer

Cuts the text of a page into tokens. How a stretch is read depends on the tag before it, which the
tree builder knows: the tokenizer is asked for the next tokens with a content model, and gives them
with the rest of the text.
-/

namespace Grounded.Html

open Text

/-- Drops the white space at the start. -/
def dropSpace (s : List Char) : List Char := s.dropWhile isSpace

/-- The text with null characters replaced. -/
def replaceNulls (s : List Char) : List Char :=
  s.map fun c => if c == '\x00' then replacement else c

/-- The text as a name: in lower case, without null characters. -/
def lowerName (s : List Char) : String := String.ofList ((replaceNulls s).map asciiLower)

/-- The text with every line break a line feed. -/
def normalizeBreaks : List Char → List Char
  | '\r' :: '\n' :: rest => '\n' :: normalizeBreaks rest
  | '\r' :: rest => '\n' :: normalizeBreaks rest
  | c :: rest => c :: normalizeBreaks rest
  | [] => []

/-! ## Tags -/

/-- The value of an attribute, from behind the equals sign, and what follows; `none` at the end of the text. -/
def attributeValue? (s : List Char) : Option (List Char × List Char) :=
  match dropSpace s with
  | [] => none
  | q :: rest =>
    if q == '"' || q == '\'' then
      match rest.dropWhile (· != q) with
      | [] => none
      | _ :: after => some (rest.takeWhile (· != q), after)
    else if q == '>' then some ([], q :: rest)
    else
      let isInside (c : Char) := !isSpace c && c != '>'
      match (q :: rest).dropWhile isInside with
      | [] => none
      | after => some ((q :: rest).takeWhile isInside, after)

/-- Whether the character belongs to the name of an attribute. -/
def isAttributeChar (c : Char) : Bool := !isSpace c && c != '/' && c != '>' && c != '='

/--
The attributes of a tag from the next one on, whether the tag closes itself, and what follows the tag;
`none` if the text ends in the tag. Of attributes with one name, the first counts. `fuel` is more than
the length of the text.
-/
def attributes? : Nat → List (String × String) → List Char →
    Option (List (String × String) × Bool × List Char)
  | 0, _, _ => none
  | fuel + 1, found, s =>
    match dropSpace s with
    | [] => none
    | '>' :: rest => some (found.reverse, false, rest)
    | '/' :: '>' :: rest => some (found.reverse, true, rest)
    | '/' :: rest => attributes? fuel found rest
    | first :: rest => do
      let name := lowerName (first :: rest.takeWhile isAttributeChar)
      let afterName := dropSpace (rest.dropWhile isAttributeChar)
      let (value, after) ←
        match afterName with
        | '=' :: s => attributeValue? s
        | s => some ([], s)
      let value := String.ofList (replaceReferences true (replaceNulls value))
      attributes? fuel (if found.any (·.1 == name) then found else (name, value) :: found) after

/-- A tag from its name on: the name, the attributes, whether it closes itself, and what follows. -/
def tagBody? (s : List Char) : Option (String × List (String × String) × Bool × List Char) := do
  let isInside (c : Char) := !isSpace c && c != '/' && c != '>'
  let rest := s.dropWhile isInside
  let (attributes, selfClosing, after) ← attributes? (rest.length + 1) [] rest
  some (lowerName (s.takeWhile isInside), attributes, selfClosing, after)

/-! ## Document types and comments -/

/-- A quoted identifier of a declaration, whether its quote is closed, and what follows. -/
def identifier? (s : List Char) : Option (String × Bool × List Char) :=
  match dropSpace s with
  | [] => none
  | q :: rest =>
    if q == '"' || q == '\'' then
      let after := rest.dropWhile (· != q)
      some (String.ofList (replaceNulls (rest.takeWhile (· != q))), !after.isEmpty, after.drop 1)
    else none

/-- The declaration of a content that stands before the closing bracket, which may be missing. -/
def doctypeOf (closed : Bool) (content : List Char) : Doctype :=
  let s := dropSpace content
  if s.isEmpty then ⟨none, none, none, true⟩
  else
    let name := some (lowerName (s.takeWhile (!isSpace ·)))
    let rest := dropSpace (s.dropWhile (!isSpace ·))
    let withSystem (publicId : Option String) (needed : Bool) (s : List Char) : Doctype :=
      match identifier? s with
      | none => ⟨name, publicId, none, needed || !(dropSpace s).isEmpty || !closed⟩
      | some (systemId, whole, after) =>
        ⟨name, publicId, some systemId, !whole || (!closed && (dropSpace after).isEmpty)⟩
    if rest.isEmpty then ⟨name, none, none, !closed⟩
    else if startsWithWord "public".toList rest then
      match identifier? (rest.drop 6) with
      | none => ⟨name, none, none, true⟩
      | some (publicId, whole, after) =>
        if whole then withSystem (some publicId) false after
        else ⟨name, some publicId, none, true⟩
    else if startsWithWord "system".toList rest then withSystem none true (rest.drop 6)
    else ⟨name, none, none, true⟩

/-- What follows the first closing bracket. -/
def afterBracket (s : List Char) : List Char := (s.dropWhile (· != '>')).drop 1

/-- What follows the end of a comment whose text this is. -/
def afterCommentText : List Char → List Char
  | '-' :: '-' :: '>' :: rest => rest
  | '-' :: '-' :: '!' :: '>' :: rest => rest
  | _ :: rest => afterCommentText rest
  | [] => []

/-- What follows a comment, from behind the two dashes that open it. -/
def afterComment : List Char → List Char
  | '>' :: rest => rest
  | '-' :: '>' :: rest => rest
  | s => afterCommentText s

/-- The tokens of text in a character data section. -/
def sectionTokens : List Char → List Token
  | [] => []
  | c :: rest =>
    (if c == '\x00' then .null else .text (isSpace c) (String.ofList [c])) :: sectionTokens rest

/-- The tokens of what stands behind `<!`, and what follows. -/
def declaration (sectionsAllowed : Bool) (s : List Char) : List Token × List Char :=
  if ['-', '-'].isPrefixOf s then ([.comment], afterComment (s.drop 2))
  else if startsWithWord "doctype".toList s then
    let content := (s.drop 7).takeWhile (· != '>')
    let closed := content.length < (s.drop 7).length
    ([.doctype (doctypeOf closed content)], afterBracket (s.drop 7))
  else if sectionsAllowed && "[CDATA[".toList.isPrefixOf s then
    match cutFirst "]]>".toList (s.drop 7) with
    | some (content, after) => (sectionTokens content, after)
    | none => (sectionTokens (s.drop 7), [])
  else ([.comment], afterBracket s)

/-! ## Tagged text -/

/-- The tokens of what stands behind a less-than sign, and what follows. -/
def markup (sectionsAllowed : Bool) (s : List Char) : List Token × List Char :=
  let literal := Token.text false
  match s with
  | '!' :: rest => declaration sectionsAllowed rest
  | '?' :: _ => ([.comment], afterBracket s)
  | '/' :: rest =>
    match rest with
    | [] => ([literal "</"], [])
    | '>' :: after => ([], after)
    | c :: _ =>
      if isLetter c then
        match tagBody? rest with
        | some (name, _, _, after) => ([.stop name], after)
        | none => ([], [])
      else ([.comment], afterBracket rest)
  | c :: _ =>
    if isLetter c then
      match tagBody? s with
      | some (name, attributes, selfClosing, after) => ([.start ⟨name, attributes, selfClosing⟩], after)
      | none => ([], [])
    else ([literal "<"], s)
  | [] => ([literal "<"], [])

/-- The next tokens of text in which tags and references count, and what follows. -/
def dataTokens (sectionsAllowed : Bool) (s : List Char) : List Token × List Char :=
  match s with
  | [] => ([], [])
  | '<' :: rest => markup sectionsAllowed rest
  | '\x00' :: rest => ([.null], rest)
  | '&' :: rest =>
    let (value, after) := reference false rest
    ([.text (value.all isSpace) (String.ofList value)], after)
  | c :: _ =>
    let isAlike (d : Char) := d != '<' && d != '&' && d != '\x00' && isSpace d == isSpace c
    ([.text (isSpace c) (String.ofList (s.takeWhile isAlike))], s.dropWhile isAlike)

/-! ## Untagged text -/

/-- Whether an end tag of that name stands here. -/
def closes (name s : List Char) : Bool :=
  ['<', '/'].isPrefixOf s && startsWithWord name (s.drop 2) &&
    (s.drop (2 + name.length)).head?.any fun c => isSpace c || c == '/' || c == '>'

/-- The text up to the end tag of that name, and the text from it on. -/
def untilClosed (name : List Char) : List Char → List Char × List Char
  | [] => ([], [])
  | c :: rest =>
    if closes name (c :: rest) then ([], c :: rest)
    else
      let (content, after) := untilClosed name rest
      (c :: content, after)

/-- How much of a script counts as commented out. -/
inductive ScriptState where
  | plain
  /-- Behind `<!--`; `dashes` counts the dashes just before, up to two. -/
  | commented (dashes : Nat)
  /-- Behind the start tag of a script in a comment, where an end tag does not end the script. -/
  | nested (dashes : Nat)
deriving DecidableEq, Repr

/-- The word that names a script. -/
def scriptWord : List Char := "script".toList

/-- Whether the word stands here and ends like the name of a tag. -/
def namesScript (s : List Char) : Bool :=
  startsWithWord scriptWord s &&
    (s.drop scriptWord.length).head?.any fun c => isSpace c || c == '/' || c == '>'

/-- How many characters at the start of a script's text go together, and the state behind them. -/
def scriptStep (state : ScriptState) (s : List Char) : Nat × ScriptState :=
  match state with
  | .plain => if "<!--".toList.isPrefixOf s then (4, .commented 2) else (1, .plain)
  | .commented dashes =>
    match s with
    | '-' :: _ => (1, .commented (min 2 (dashes + 1)))
    | '>' :: _ => (1, if dashes = 2 then .plain else .commented 0)
    | '<' :: rest =>
      if namesScript rest then (scriptWord.length + 2, .nested 0) else (1, .commented 0)
    | _ => (1, .commented 0)
  | .nested dashes =>
    match s with
    | '-' :: _ => (1, .nested (min 2 (dashes + 1)))
    | '>' :: _ => (1, if dashes = 2 then .plain else .nested 0)
    | '<' :: '/' :: rest =>
      if namesScript rest then (scriptWord.length + 3, .commented 0) else (2, .nested 0)
    | _ => (1, .nested 0)

/-- Whether an end tag of a script counts in the state. -/
def ScriptState.mayClose : ScriptState → Bool
  | .nested _ => false
  | _ => true

/-- The text of a script up to its end tag, and the text from it on. `fuel` is more than its length. -/
def untilScriptClosed : Nat → ScriptState → List Char → List Char × List Char
  | 0, _, s => (s, [])
  | _, _, [] => ([], [])
  | fuel + 1, state, s =>
    if state.mayClose && closes scriptWord s then ([], s)
    else
      let (count, next) := scriptStep state s
      let (content, after) := untilScriptClosed fuel next (s.drop count)
      (s.take count ++ content, after)

/-- The token of untagged text; none for no text. -/
def untagged (s : List Char) : List Token :=
  if s.isEmpty then [] else [.text false (String.ofList (replaceNulls s))]

/-- The tokens of an untagged text and of the end tag from which `rest` begins. -/
def withEndTag (content rest : List Char) : List Token × List Char :=
  match rest with
  | [] => (untagged content, [])
  | _ =>
    match tagBody? (rest.drop 2) with
    | some (name, _, _, after) => (untagged content ++ [.stop name], after)
    | none => (untagged content, [])

/-! ## All together -/

/-- The next tokens of a text that is not empty, and what follows them. -/
def tokens (model : ContentModel) (sectionsAllowed : Bool) (s : List Char) : List Token × List Char :=
  match model with
  | .data => dataTokens sectionsAllowed s
  | .rcdata name =>
    let (content, rest) := untilClosed name.toList s
    withEndTag (replaceReferences false content) rest
  | .rawText name =>
    let (content, rest) := untilClosed name.toList s
    withEndTag content rest
  | .script =>
    let (content, rest) := untilScriptClosed (s.length + 1) .plain s
    withEndTag content rest
  | .plaintext => (untagged s, [])

end Grounded.Html
