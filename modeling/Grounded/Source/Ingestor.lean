import Grounded.Config.Settings
import Grounded.Html.Extract
import Grounded.Html.Parse
import Grounded.Source.CodeTree
import Grounded.Source.Markdown
import Grounded.Source.Page
import Grounded.Web.Exchange
import Grounded.Web.Url

/-!
# The three sources

Chunks come from documentation pages, from code and from design documents. A page or a file that cannot
be read is left out; nothing else suffers from it. Pages can be read from a directory or fetched from a
site: it is the same work on another way to get at the text of a page.
-/

namespace Grounded

/-- What makes chunks of the sources. -/
structure Ingestor where
  html : Html.Extractor
  code : CodeExtractor
  markdown : Markdown.Extractor
  sources : SourceSettings
  /-- The rules for the name of the site's server. -/
  hostNames : NameRules := .ascii

namespace Ingestor

/-- The ingestor that settings describe, with a table of domains. -/
def ofSettings (c : ChunkingSettings) (sources : SourceSettings) (domains : DomainTable) : Ingestor :=
  let docs : Segmenter := ⟨c.docsMaxChars, c.overlapChars⟩
  { html := ⟨docs, c.minChunkChars, c.minFragmentChars⟩
    code := ⟨domains, ⟨c.codeMaxChars, c.overlapChars⟩, c.minChunkChars⟩
    markdown := ⟨docs, c.minChunkChars⟩
    sources }

/-! ## Documentation pages -/

/-- The chunks of a page. -/
def pageChunks (i : Ingestor) (page : String) (html : String) : List Chunk :=
  i.html.chunks (Html.parse html) (Page.label page)

/-- The chunks of the knowledge block. -/
def knowledgeChunks (i : Ingestor) (html : String) : List Chunk :=
  Page.knowledgeChunks i.html.minChars html i.sources.knowledgeBlock i.sources.knowledgePage

/-- The chunks of a page that may be missing. -/
def chunksOr (chunks : String → List Chunk) (content : Option String) : List Chunk :=
  (content.map chunks).getD []

/-- The chunks of all pages and of the knowledge block, given a way to get the text of a page. -/
def siteChunks {m : Type → Type} [Monad m] (i : Ingestor) (read : String → m (Option String)) :
    m (List Chunk) := do
  let pages ← i.sources.detailPages.mapM fun page => do
    return chunksOr (i.pageChunks page) (← read page)
  return pages.flatten ++ chunksOr i.knowledgeChunks (← read i.sources.knowledgePage)

/-- The text of a file in a directory, if it is readable. -/
def readIn (d : Disk) (dir name : String) : Option String :=
  (d.readText (Path.join dir name)).toOption

/-- The chunks of the pages in a directory. -/
def loadSite (i : Ingestor) (d : Disk) (dir : String) : List Chunk :=
  Id.run (i.siteChunks fun page => pure (readIn d dir page))

/-- The address of a page of a site; slashes at the end of the site's address do not matter. -/
def pageUrl? (rules : NameRules) (site page : String) : Option Url := do
  let base ← Url.parse? rules ((site.toList.reverse.dropWhile (· == '/')).reverse ++ ['/'])
  base.join rules page.toList

/-- How long a page of a site may take, in seconds. -/
def pageTimeoutSecs : Nat := 30

/-- The text of a page of a site, if it can be fetched. -/
def fetchPage {m : Type → Type} [Monad m] (rules : NameRules) (transport : Transport m)
    (site page : String) : m (Option String) := do
  match pageUrl? rules site page with
  | none => return none
  | some url =>
    match ← transport (url.request pageTimeoutSecs) with
    | .ok response => return if response.refused then none else some (String.ofList response.text)
    | .error _ => return none

/-- The chunks of the pages of the site. -/
def fetchSite {m : Type → Type} [Monad m] (i : Ingestor) (transport : Transport m) :
    m (List Chunk) :=
  i.siteChunks (fetchPage i.hostNames transport i.sources.siteBaseUrl)

/-! ## Code and design documents -/

/-- The chunks of the code below a directory. -/
def loadCode (i : Ingestor) (d : Disk) (codeDir : String) : List Chunk := i.code.load d codeDir

/-- The chunks of a design document. -/
def designChunks (i : Ingestor) (d : Disk) (codeDir : String) (doc : DesignDoc) : List Chunk :=
  chunksOr (i.markdown.chunks · doc.label doc.path) (readIn d codeDir doc.path)

/-- The chunks of the design documents below a directory. -/
def loadDesignDocs (i : Ingestor) (d : Disk) (codeDir : String) : List Chunk :=
  i.sources.designDocs.flatMap (i.designChunks d codeDir)

end Ingestor

end Grounded
