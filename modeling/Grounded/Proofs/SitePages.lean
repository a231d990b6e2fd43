import Grounded.Proofs.CheckoutPlace
import Grounded.Proofs.PageAddresses

/-!
# A site and its checkout

The pages of a site can be fetched from a server or read from a directory. A page that the server answers
with its text, and one that it does not find, are to the ingestor what a file with this text and a missing
file are (`yields_fetchPage`, `readIn_of_keeps`). So a server and a directory with the same pages make the
same chunks, wherever on the server they are.
-/

namespace Grounded

/-- What is answered for a page: its text in UTF-8, or that there is none. -/
def Answers : Option String → Except String HttpResponse → Prop
  | some text, answer => answer = .ok ⟨200, text.toUTF8.toList⟩
  | none, answer => ∃ body, answer = .ok ⟨404, body⟩

/--
Below an address, a server has just those of the named pages that have a text. It may ask for the
credential of the user that the address names.
-/
def Transport.Serves {m : Type → Type} [Monad m] (transport : Transport m) (base : Url)
    (names : List String) (text? : String → Option String) : Prop :=
  ∀ name ∈ names, ∀ request : HttpRequest, request.method = "GET" →
    request.url = String.ofList (base.below name).toText → request.authorization = base.credential? →
    Yields (Answers (text? name)) (transport request)

/-- A directory has just those of the named pages that have a text, each as a file. -/
def FileTree.Keeps (tree : FileTree) (names : List String) (text? : String → Option String) : Prop :=
  ∀ name ∈ names, tree.child? name = (text? name).map fun text => .file text.toUTF8

/-- If each of several actions has a known result, so have all of them together. -/
theorem yields_mapM_map {m : Type → Type} [Monad m] [LawfulMonad m] {β γ : Type} {f : γ → m β}
    {g : γ → β} {cs : List γ} (h : ∀ c ∈ cs, Yields (· = g c) (f c)) :
    Yields (· = cs.map g) (cs.mapM f) := by
  induction cs with
  | nil =>
      rw [List.mapM_nil]
      exact yields_pure rfl
  | cons c cs ih =>
      obtain ⟨hc, hcs⟩ := List.forall_mem_cons.mp h
      rw [List.mapM_cons]
      refine hc.bind ?_
      rintro _ rfl
      refine (ih hcs).bind ?_
      rintro _ rfl
      exact yields_pure rfl

namespace Ingestor

/-- The names of all pages of the site. -/
def pageNames (i : Ingestor) : List String := i.sources.detailPages ++ [i.sources.knowledgePage]

section Fetch

variable {m : Type → Type} [Monad m] [LawfulMonad m]

theorem yields_fetchPage {rules : NameRules} {transport : Transport m} {site name : String}
    {root : List Char} {count : Nat} {base : Url} {names : List String} {text? : String → Option String}
    (hserved : transport.Serves base names text?) (hmem : name ∈ names) (hname : PageName name)
    (hsite : site.toList = root ++ List.replicate count '/') (hroot : Url.IsSite rules root base) :
    Yields (· = text? name) (fetchPage rules transport site name) := by
  rw [fetchPage, pageUrl?_eq hsite hroot hname]
  refine (hserved name hmem _ rfl rfl rfl).bind ?_
  intro answer hanswer
  cases htext : text? name with
  | none =>
      rw [htext] at hanswer
      obtain ⟨body, rfl⟩ := hanswer
      exact yields_pure rfl
  | some text =>
      rw [htext] at hanswer
      cases hanswer
      refine yields_pure ?_
      rw [HttpResponse.text, Text.decodeLossy_toUTF8, String.ofList_toList]
      rfl

/-- The chunks of the pages with these texts. -/
def textChunks (i : Ingestor) (text? : String → Option String) : List Chunk :=
  (i.sources.detailPages.map fun page => chunksOr (i.pageChunks page) (text? page)).flatten ++
    chunksOr i.knowledgeChunks (text? i.sources.knowledgePage)

/-- However the texts of the pages are got, the chunks are made of the texts alone. -/
theorem yields_siteChunks_of_texts (i : Ingestor) {read : String → m (Option String)}
    {text? : String → Option String} (h : ∀ name ∈ i.pageNames, Yields (· = text? name) (read name)) :
    Yields (· = i.textChunks text?) (i.siteChunks read) := by
  have hpages : Yields
      (· = i.sources.detailPages.map fun page => chunksOr (i.pageChunks page) (text? page))
      (i.sources.detailPages.mapM fun page => do
        return chunksOr (i.pageChunks page) (← read page) : m (List (List Chunk))) := by
    refine yields_mapM_map fun page hpage => ?_
    refine (h page (List.mem_append_left _ hpage)).bind ?_
    rintro _ rfl
    exact yields_pure rfl
  refine hpages.bind ?_
  rintro _ rfl
  refine (h _ (List.mem_append_right _ List.mem_cons_self)).bind ?_
  rintro _ rfl
  exact yields_pure rfl

end Fetch

theorem readIn_of_keeps {d : Disk} {dir name : String} {tree : FileTree} {names : List String}
    {text? : String → Option String} (hdir : d.Holds dir tree) (hkept : tree.Keeps names text?)
    (hmem : name ∈ names) (hname : PageName name) : readIn d dir name = text? name := by
  have hget := hdir.get_join hname.fileName
  rw [hkept name hmem] at hget
  rw [readIn]
  cases htext : text? name with
  | none =>
      rw [htext] at hget
      rw [Disk.readText, Disk.read, hget]
      rfl
  | some text =>
      rw [htext] at hget
      have hfile : d.get (Path.join dir name)
          = .ok (.file (KnowledgeIndex.bytesOf text.toList)) := by
        rw [KnowledgeIndex.bytesOf, String.ofList_toList]
        exact hget
      rw [Disk.readText_of_get hfile, String.ofList_toList]
      rfl

theorem loadSite_of_keeps (i : Ingestor) {d : Disk} {dir : String} {tree : FileTree}
    {text? : String → Option String} (hdir : d.Holds dir tree) (hkept : tree.Keeps i.pageNames text?)
    (hnames : ∀ name ∈ i.pageNames, PageName name) : i.loadSite d dir = i.textChunks text? := by
  refine (i.yields_siteChunks_of_texts (m := Id) ?_).of_id
  intro name hmem
  rw [readIn_of_keeps hdir hkept hmem (hnames name hmem)]
  exact yields_pure rfl

/--
**Fetching a site and reading its checkout give the same chunks.** The names of the pages are plain, and
the address of the site may be written with slashes at its end. A directory that has just these pages, and a
server that has just these pages below the address, lead to the same list, whatever the texts begin with and
whatever the server does besides answering.
-/
theorem fetchSite_eq_loadSite {m : Type → Type} [Monad m] [LawfulMonad m] (i : Ingestor)
    (transport : Transport m) (d : Disk) (dir : String) (tree : FileTree)
    (text? : String → Option String) (root : List Char) (count : Nat) (base : Url)
    (hnames : ∀ name ∈ i.pageNames, PageName name)
    (hsite : i.sources.siteBaseUrl.toList = root ++ List.replicate count '/')
    (hroot : Url.IsSite i.hostNames root base) (hdir : d.Holds dir tree) (hkept : tree.Keeps i.pageNames text?)
    (hserved : transport.Serves base i.pageNames text?) :
    Yields (· = i.loadSite d dir) (i.fetchSite transport) := by
  rw [i.loadSite_of_keeps hdir hkept hnames]
  refine i.yields_siteChunks_of_texts fun name hmem => ?_
  exact yields_fetchPage hserved hmem (hnames name hmem) hsite hroot

/--
An ingestor of three pages. The address of their site names a user and the number of the server, and has
three slashes at its end.
-/
def threePages : Ingestor where
  html := ⟨⟨800, 0⟩, 0, 0⟩
  code := ⟨⟨[]⟩, ⟨800, 0⟩, 0⟩
  markdown := ⟨⟨800, 0⟩, 0⟩
  sources :=
    { siteBaseUrl := "http://lore:s%20t@[::1]:8080/docs/v1///", detailPages := ["start.html", "gone.html"]
      knowledgePage := "index.html", knowledgeBlock := "K", designDocs := [] }

/-- The texts of two of the pages. -/
def pageTexts : String → Option String
  | "start.html" => some "<p>Caf\u00e9</p>"
  | "index.html" => some "const K = \x7ba: \x60one\x60\x7d;"
  | _ => none

/-- A directory with the two pages. -/
def pageDir : FileTree :=
  .dir
    [("start.html", .file "<p>Caf\u00e9</p>".toUTF8),
     ("index.html", .file "const K = \x7ba: \x60one\x60\x7d;".toUTF8)]

/-- A server with the two pages, which it shows to one user only. -/
def pageServer : Transport Id := fun request =>
  if request.authorization = some "Basic bG9yZTpzIHQ=" then
    match ["start.html", "index.html"].find? fun name =>
        request.url == "http://[::1]:8080/docs/v1/" ++ name with
    | some name => .ok ⟨200, ((pageTexts name).getD "").toUTF8.toList⟩
    | none => .ok ⟨404, []⟩
  else .ok ⟨401, []⟩

/-- The address of the site. -/
def pageBase : Url where
  scheme := "http".toList
  authority :=
    { host := .v6 #v[0, 0, 0, 0, 0, 0, 0, 1], port := some 8080, user := "lore".toList
      password := some "s%20t".toList }
  path := ["docs".toList, "v1".toList]

theorem isSite_pageBase :
    Url.IsSite threePages.hostNames "http://lore:s%20t@[::1]:8080/docs/v1".toList pageBase where
  parsed := by decide +kernel
  endsOpen := by
    intro c hc
    cases hc
    rfl
  visible := by
    intro c hc
    cases hc
    decide
  noQuery := by decide
  noFragment := by decide

theorem credential_pageBase : pageBase.credential? = some "Basic bG9yZTpzIHQ=" := by decide +kernel

theorem forall_threePages {P : String → Prop} (hstart : P "start.html") (hgone : P "gone.html")
    (hindex : P "index.html") : ∀ name ∈ threePages.pageNames, P name :=
  List.forall_mem_cons.mpr
    ⟨hstart, List.forall_mem_cons.mpr ⟨hgone, List.forall_mem_singleton.mpr hindex⟩⟩

theorem keeps_pageDir : pageDir.Keeps threePages.pageNames pageTexts :=
  forall_threePages rfl rfl rfl

theorem serves_pageServer : pageServer.Serves pageBase threePages.pageNames pageTexts := by
  refine forall_threePages ?start ?gone ?index
  case start =>
    intro request _ hurl huser
    rw [pageServer, hurl, huser, if_pos credential_pageBase]
    exact yields_pure rfl
  case gone =>
    intro request _ hurl huser
    rw [pageServer, hurl, huser, if_pos credential_pageBase]
    exact yields_pure ⟨[], rfl⟩
  case index =>
    intro request _ hurl huser
    rw [pageServer, hurl, huser, if_pos credential_pageBase]
    exact yields_pure rfl

theorem fetchSite_eq_loadSite_threePages :
    Url.IsSite threePages.hostNames "http://lore:s%20t@[::1]:8080/docs/v1".toList pageBase ∧
      Disk.Holds ⟨.dir [("site", pageDir)], []⟩ "site" pageDir ∧
      pageDir.Keeps threePages.pageNames pageTexts ∧
      pageServer.Serves pageBase threePages.pageNames pageTexts ∧
      (threePages.fetchSite pageServer).run
        = threePages.loadSite ⟨.dir [("site", pageDir)], []⟩ "site" ∧
      (threePages.loadSite ⟨.dir [("site", pageDir)], []⟩ "site").map (·.text)
        = ["Caf\u00e9", "one"] := by
  have hdir : Disk.Holds ⟨.dir [("site", pageDir)], []⟩ "site" pageDir :=
    ⟨["site"], ⟨rfl, _, rfl⟩, rfl⟩
  have hnames : ∀ name ∈ threePages.pageNames, PageName name :=
    forall_threePages ⟨by decide, List.all_eq_true.mp (by decide), by decide, by decide⟩
      ⟨by decide, List.all_eq_true.mp (by decide), by decide, by decide⟩
      ⟨by decide, List.all_eq_true.mp (by decide), by decide, by decide⟩
  exact ⟨isSite_pageBase, hdir, keeps_pageDir, serves_pageServer,
    (fetchSite_eq_loadSite threePages pageServer _ "site" pageDir pageTexts _ 3 pageBase hnames
      rfl isSite_pageBase hdir keeps_pageDir serves_pageServer).of_id, by decide +kernel⟩

end Ingestor

end Grounded
