import Grounded.Source.Domain
import Grounded.Text.Blank
import Grounded.Text.Find
import Grounded.Text.Line
import Grounded.Text.Word

/-!
# Documented items of source files

A file is read line by line, without parsing. Doc comments collect until a public declaration claims
them; a test region ends the reading. A documented item is the pair of the doc text and the
declaration's signature.
-/

namespace Grounded

open Text

/-- A documented item of a source file. -/
structure CodeItem where
  /-- The doc comment, its lines joined by line feeds. -/
  doc : List Char
  /-- The declaration up to its body or end; empty for docs that belong to a whole file. -/
  signature : List Char
  domain : String
  /-- The path of the file. -/
  file : String
deriving DecidableEq, Repr

namespace CodeItem

/-- The doc text with the signature on a line of its own. -/
def render (i : CodeItem) : List Char :=
  if i.doc.isEmpty then i.signature
  else if i.signature.isEmpty then i.doc
  else i.doc ++ '\n' :: i.signature

end CodeItem

namespace Signature

/-- The keyword that opens the constraints of a declaration. -/
def whereWord : List Char := ['w', 'h', 'e', 'r', 'e']

/-- Whether the keyword stands here as a word of its own, the character before being no word character. -/
def startsWhere (s : List Char) : Bool :=
  whereWord.isPrefixOf s && !((s.drop whereWord.length).head?.any isWord)

/--
What stands before the first brace, semicolon or keyword, if there is one. `afterWord` says whether
the character before the text is a word character.
-/
def beforeEnd? (afterWord : Bool) : List Char → Option (List Char)
  | [] => none
  | c :: rest =>
    if c == '\x7b' || c == ';' || (!afterWord && startsWhere (c :: rest)) then some []
    else (beforeEnd? (isWord c) rest).map (c :: ·)

/-- The declaration up to its first brace, semicolon or constraint, unless the line starts there. -/
def truncate (line : List Char) : List Char :=
  match beforeEnd? false line with
  | some (c :: before) => trim (c :: before)
  | _ => line

end Signature

/-- What a line of a source file means to the reader of docs. -/
inductive CodeLine where
  /-- A doc comment, with its text. -/
  | doc (text : List Char)
  /-- A public declaration, with its signature. -/
  | declaration (signature : List Char)
  /-- A comment or an attribute: what is pending stays pending. -/
  | neutral
  /-- The start of a test region. -/
  | tests
  /-- Anything else, blank lines included. -/
  | other
deriving DecidableEq, Repr

/-- The text of a doc comment line that is already trimmed. -/
def CodeLine.docText? (s : List Char) : Option (List Char) :=
  ((afterStart? ['/', '/', '!'] s).orElse fun _ => afterStart? ['/', '/', '/'] s).map trim

/-- Classifies a line. -/
def CodeLine.ofLine (line : List Char) : CodeLine :=
  let s := trim line
  if "#[cfg(test)]".toList.isPrefixOf s then .tests
  else
    match docText? s with
    | some text => .doc text
    | none =>
      if ['p', 'u', 'b', ' '].isPrefixOf s then .declaration (Signature.truncate s)
      else if ['/', '/'].isPrefixOf s || ['#', '['].isPrefixOf s then .neutral
      else .other

namespace CodeItem

/-- A signature of at most this many characters needs a doc comment to count. -/
def shortSignature : Nat := 10

/-- Joins doc lines by line feeds. -/
def joinDoc (pending : List (List Char)) : List Char := joinWith ['\n'] pending

/--
The items of the remaining lines. `pending` holds the doc lines that no declaration has claimed, and
`emitted` says whether the file has given an item already: unclaimed docs count only as the first.
-/
def ofLines (file domain : String) (pending : List (List Char)) (emitted : Bool) :
    List CodeLine → List CodeItem
  | [] => if pending.isEmpty then [] else [⟨joinDoc pending, [], domain, file⟩]
  | .tests :: _ => if pending.isEmpty then [] else [⟨joinDoc pending, [], domain, file⟩]
  | .doc text :: rest =>
    ofLines file domain (if text.isEmpty then pending else pending ++ [text]) emitted rest
  | .declaration signature :: rest =>
    if !pending.isEmpty || shortSignature < signature.length then
      ⟨joinDoc pending, signature, domain, file⟩ :: ofLines file domain [] true rest
    else ofLines file domain [] emitted rest
  | .neutral :: rest => ofLines file domain pending emitted rest
  | .other :: rest =>
    if !pending.isEmpty && !emitted then
      ⟨joinDoc pending, [], domain, file⟩ :: ofLines file domain [] true rest
    else ofLines file domain [] emitted rest

/-- The items of a source file. -/
def ofSource (domains : DomainTable) (content : List Char) (file : String) : List CodeItem :=
  ofLines file (domains.classify file) [] false ((lines content).map CodeLine.ofLine)

/-- The quoted value after the equals sign, if the text here sets `key`. -/
def quotedValue? (key s : List Char) : Option (List Char) := do
  let rest ← afterStart? key s
  let rest ← afterStart? ['='] (trimStart rest)
  let rest ← afterStart? ['"'] (trimStart rest)
  let value := rest.takeWhile (· != '"')
  if value.isEmpty || value.length = rest.length then none else some value

/-- The value of the first line that sets `key` to a quoted text. -/
def manifestField? (key : List Char) (lineStart : Bool) : List Char → Option (List Char)
  | [] => none
  | c :: rest =>
    match if lineStart then quotedValue? key (c :: rest) else none with
    | some value => some value
    | none => manifestField? key (c == '\n') rest

/-- The summary of a crate, from a manifest that names and describes it. -/
def ofManifest? (domains : DomainTable) (content : List Char) (file : String) : Option CodeItem := do
  let name ← manifestField? "name".toList true content
  let description ← manifestField? "description".toList true content
  some ⟨"Crate: ".toList ++ name ++ '\n' :: description, [],
    domains.classify (String.ofList name ++ "/src"), file⟩

end CodeItem

end Grounded
