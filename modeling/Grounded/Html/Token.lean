/-!
# Tokens of a page

The tokenizer hands the tree builder tags, stretches of text and the rest of the markup. Text comes in
stretches that are all blank or all not, because many places take blanks differently.
-/

namespace Grounded.Html

/-- A start tag. -/
structure Tag where
  name : String
  attributes : List (String × String)
  selfClosing : Bool
deriving DecidableEq, Repr, Inhabited

/-- A document type declaration. -/
structure Doctype where
  name : Option String
  publicId : Option String
  systemId : Option String
  /-- Whether the declaration is broken. -/
  broken : Bool
deriving DecidableEq, Repr

/-- What the tokenizer finds. -/
inductive Token where
  | doctype (declaration : Doctype)
  | start (tag : Tag)
  | stop (name : String)
  | comment
  /-- A stretch of text; `blank` says that all of it is white space. -/
  | text (blank : Bool) (content : String)
  /-- A null character. -/
  | null
  /-- The end of the page. -/
  | eof
deriving DecidableEq, Repr

/-- How the text after a start tag is read. -/
inductive ContentModel where
  /-- Tags and references count. -/
  | data
  /-- References count, and the end tag of that name. -/
  | rcdata (name : String)
  /-- Only the end tag of that name counts. -/
  | rawText (name : String)
  /-- The text of a script. -/
  | script
  /-- Nothing counts any more. -/
  | plaintext
deriving DecidableEq, Repr

/-- The white space of the markup. -/
def isSpace (c : Char) : Bool := c == ' ' || c == '\t' || c == '\n' || c == '\x0c' || c == '\r'

/-- The character in lower case, if it is an ASCII letter. -/
def asciiLower (c : Char) : Char := if 'A' ≤ c && c ≤ 'Z' then Char.ofNat (c.toNat + 32) else c

/-- Whether the text begins with the word, in any case of its ASCII letters. -/
def startsWithWord (word : List Char) (s : List Char) : Bool :=
  word.isPrefixOf ((s.take word.length).map asciiLower)

/--
Whether a page with this declaration is shown in quirks mode, where a table may stand in a paragraph.
-/
def Doctype.isQuirky (d : Doctype) : Bool :=
  let lower (s : String) := String.ofList (s.toList.map asciiLower)
  let publicId := d.publicId.map lower
  let systemId := d.systemId.map lower
  let publicStarts (starts : List String) :=
    publicId.any fun p => starts.any fun start => start.toList.isPrefixOf p.toList
  d.broken || d.name != some "html" ||
    publicId.any ["-//w3o//dtd w3 html strict 3.0//en//", "-/w3c/dtd html 4.0 transitional/en",
      "html"].contains ||
    systemId == some "http://www.ibm.com/data/dtd/v11/ibmxhtml1-transitional.dtd" ||
    publicStarts
      ["-//advasoft ltd//dtd html 3.0 aswedit + extensions//", "-//as//dtd html 3.0 aswedit + extensions//",
       "-//ietf//dtd html 2.0 level 1//", "-//ietf//dtd html 2.0 level 2//",
       "-//ietf//dtd html 2.0 strict level 1//", "-//ietf//dtd html 2.0 strict level 2//",
       "-//ietf//dtd html 2.0 strict//", "-//ietf//dtd html 2.0//", "-//ietf//dtd html 2.1e//",
       "-//ietf//dtd html 3.0//", "-//ietf//dtd html 3.2 final//", "-//ietf//dtd html 3.2//",
       "-//ietf//dtd html 3//", "-//ietf//dtd html level 0//", "-//ietf//dtd html level 1//",
       "-//ietf//dtd html level 2//", "-//ietf//dtd html level 3//",
       "-//ietf//dtd html strict level 0//", "-//ietf//dtd html strict level 1//",
       "-//ietf//dtd html strict level 2//", "-//ietf//dtd html strict level 3//",
       "-//ietf//dtd html strict//", "-//ietf//dtd html//", "-//metrius//dtd metrius presentational//",
       "-//microsoft//dtd internet explorer 2.0 html strict//",
       "-//microsoft//dtd internet explorer 2.0 html//",
       "-//microsoft//dtd internet explorer 2.0 tables//",
       "-//microsoft//dtd internet explorer 3.0 html strict//",
       "-//microsoft//dtd internet explorer 3.0 html//",
       "-//microsoft//dtd internet explorer 3.0 tables//", "-//netscape comm. corp.//dtd html//",
       "-//netscape comm. corp.//dtd strict html//", "-//o'reilly and associates//dtd html 2.0//",
       "-//o'reilly and associates//dtd html extended 1.0//",
       "-//o'reilly and associates//dtd html extended relaxed 1.0//",
       "-//softquad software//dtd hotmetal pro 6.0::19990601::extensions to html 4.0//",
       "-//softquad//dtd hotmetal pro 4.0::19971010::extensions to html 4.0//",
       "-//spyglass//dtd html 2.0 extended//", "-//sq//dtd html 2.0 hotmetal + extensions//",
       "-//sun microsystems corp.//dtd hotjava html//",
       "-//sun microsystems corp.//dtd hotjava strict html//", "-//w3c//dtd html 3 1995-03-24//",
       "-//w3c//dtd html 3.2 draft//", "-//w3c//dtd html 3.2 final//", "-//w3c//dtd html 3.2//",
       "-//w3c//dtd html 3.2s draft//", "-//w3c//dtd html 4.0 frameset//",
       "-//w3c//dtd html 4.0 transitional//", "-//w3c//dtd html experimental 19960712//",
       "-//w3c//dtd html experimental 970421//", "-//w3c//dtd w3 html//", "-//w3o//dtd w3 html 3.0//",
       "-//webtechs//dtd mozilla html 2.0//", "-//webtechs//dtd mozilla html//"] ||
    (systemId.isNone &&
      publicStarts ["-//w3c//dtd html 4.01 frameset//", "-//w3c//dtd html 4.01 transitional//"])

end Grounded.Html
