import Grounded.Text.Blank
import Grounded.Text.Find
import Grounded.Text.Title
import Grounded.Text.Word
import Grounded.Chunk.Basic

/-!
# Page labels and knowledge blocks

A documentation page is labelled by its file name. A page may carry a knowledge block: a script
constant whose value is a brace-delimited list of entries, each a key, a colon and a text between
backquotes. Each entry of sufficient length is one chunk.
-/

namespace Grounded.Page

open Text

/-- Drops `ending` from the end of the text as often as it stands there. -/
def dropEndings (ending : List Char) (s : List Char) : List Char :=
  if _h : ending ≠ [] ∧ ending.reverse.isPrefixOf s.reverse ∧ ending.length ≤ s.length then
    dropEndings ending (s.take (s.length - ending.length))
  else s
termination_by s.length
decreasing_by
  have := List.length_pos_iff.2 _h.1
  simp only [List.length_take]; omega

/-- The label of a page, from its file name. -/
def label (fileName : String) : String :=
  let name := fileName.toList
  let name := (afterStart? "detail-".toList name).getD name
  let stem := dropEndings ".html".toList name
  String.ofList (titleCase (stem.map fun c => if c == '-' then ' ' else c))

/-- The text after the opening brace, if a constant called `name` is opened right here. -/
def openBlock? (name s : List Char) : Option (List Char) := do
  let rest ← afterStart? ("const ".toList ++ name) s
  let rest ← afterStart? ['='] (trimStart rest)
  afterStart? ['\x7b'] (trimStart rest)

/-- The block's content: at least one character, up to the first closing brace and semicolon. -/
def blockContent? (s : List Char) : Option (List Char) :=
  match s with
  | [] => none
  | c :: rest => (cutFirst ['\x7d', ';'] rest).map fun (content, _) => c :: content

/-- The content of the first block called `name` that is closed. -/
def block? (name : List Char) : List Char → Option (List Char)
  | [] => none
  | c :: rest =>
    match (openBlock? name (c :: rest)).bind blockContent? with
    | some content => some content
    | none => block? name rest

/-- The key and the text of an entry that begins right here, and what follows it. -/
def entry? (s : List Char) : Option (List Char × List Char × List Char) := do
  let key := s.takeWhile isWord
  if key.isEmpty then none
  let rest ← afterStart? [':'] (s.dropWhile isWord)
  let rest ← afterStart? ['\x60'] (trimStart rest)
  let text := rest.takeWhile (· != '\x60')
  if text.isEmpty then none
  let rest ← afterStart? ['\x60'] (rest.dropWhile (· != '\x60'))
  some (key, text, rest)

/-- The entries of a block, in order. `fuel` is at least the length of the text. -/
def entriesWithin : Nat → List Char → List (List Char × List Char)
  | 0, _ => []
  | _, [] => []
  | fuel + 1, c :: rest =>
    match entry? (c :: rest) with
    | some (key, text, after) => (key, text) :: entriesWithin fuel after
    | none => entriesWithin fuel rest

/-- The entries of a block, in order. -/
def entries (content : List Char) : List (List Char × List Char) :=
  entriesWithin content.length content

/-- The chunk of one entry, if its text has more than `minChars` characters. -/
def entryChunk? (minChars : Nat) (source : String) (entry : List Char × List Char) : Option Chunk :=
  let text := collapseBlanks (trim entry.2)
  if minChars < text.length then
    some ⟨String.ofList text, source, String.ofList (titleCase entry.1), .docs⟩
  else none

/-- The chunks of the knowledge block called `name`; none if the page has no such block. -/
def knowledgeChunks (minChars : Nat) (page name source : String) : List Chunk :=
  match block? name.toList page.toList with
  | none => []
  | some content => (entries content).filterMap (entryChunk? minChars source)

end Grounded.Page
