import Grounded.Cli.Run

/-!
# What a command looks at

The files that a command may look at follow from its arguments and the settings. They are all that has to
be known of the file system before it is run.
-/

namespace Grounded.Cli

/-- Files, and directories of which everything below matters. -/
structure Footprint where
  files : List String := []
  trees : List String := []
deriving DecidableEq, Repr

/-- Everything of two footprints. -/
def Footprint.union (a b : Footprint) : Footprint := ⟨a.files ++ b.files, a.trees ++ b.trees⟩

/-- The stored index in a directory. -/
def indexFootprint (dir : String) : Footprint := { files := dir :: (IndexPaths.inDir dir).toList }

/-- The customized prompts. -/
def promptFootprint (s : Settings) (env : Environment) : Footprint :=
  match s.prompts.customDir with
  | none => {}
  | some dir =>
    let dir := env.expand dir
    { files := [Path.join dir Prompts.ragFile, Path.join dir Prompts.repliesFile] }

/-- The documentation pages in a directory. -/
def siteFootprint (s : Settings) : SiteSource → Footprint
  | .dir path =>
    { files := path :: (s.sources.detailPages ++ [s.sources.knowledgePage]).map (Path.join path) }
  | _ => {}

/-- The code and the design documents below a directory. -/
def codeFootprint (s : Settings) (codeDir : String) : Footprint :=
  { files := s.sources.designDocs.map fun doc => Path.join codeDir doc.path
    trees := [Path.join codeDir CodeExtractor.cratesDir] }

/-- What answers need. -/
def engineFootprint (s : Settings) (env : Environment) : Footprint :=
  (promptFootprint s env).union (indexFootprint (s.indexDir env))

/-- What a command may look at, the configuration file apart. -/
def Command.footprint (s : Settings) (env : Environment) : Command → Footprint
  | .index htmlDir fetchHtml codeDir outputDir =>
    (siteFootprint s (siteSource s env htmlDir fetchHtml)).union
      ((codeFootprint s ((codeDir.map env.expand).getD (s.codeDir env))).union
        (indexFootprint ((outputDir.map env.expand).getD (s.indexDir env))))
  | .ask .. | .search .. | .chat => engineFootprint s env
  | .doctor =>
    (siteFootprint s (siteSource s env none false)).union
      ((codeFootprint s (s.codeDir env)).union (indexFootprint (s.indexDir env)))
  | .health | .configShow | .configPath => {}

/-- The files that a command may write. -/
def Command.outputs (s : Settings) (env : Environment) : Command → List String
  | .index _ _ _ outputDir =>
    (IndexPaths.inDir ((outputDir.map env.expand).getD (s.indexDir env))).toList
  | _ => []

end Grounded.Cli
