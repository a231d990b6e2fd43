import Grounded.Proofs.ItemOrder
import Grounded.Proofs.SegmentParagraphs
import Grounded.Proofs.SourceLabels

/-!
# Code by domains

The items of a project come from its manifests and its source files, and each of them belongs to one
domain. Here it is said which files are read, in which order, and where their items are filed (`Items`),
how the items fall into domains (`Grouped`) and what becomes of those of one domain (`DomainChunks`).

None of this mentions the walk or the table in which the items are collected. A domain keeps its items in
the order in which the project lists them, and the paragraphs of its text are those of its items.
-/

namespace Grounded.CodeExtractor

open Text

/-! ## The files that are read -/

/-- The files of a tree whose paths are of the kind `which`, each once and in the order of their paths. -/
structure Listed (tree : FileTree) (which : List String → Prop)
    (files : List (List String × ByteArray)) : Prop where
  ordered : files.Pairwise fun a b => a.1 < b.1
  mem_iff : ∀ names content,
    (names, content) ∈ files ↔ tree.at? names = some (.file content) ∧ which names

/-- The path of a source file, by its extension. -/
def IsSource (names : List String) : Prop := names.getLast?.any (Path.hasExtension "rs") = true

/-- The path of the manifest of a crate. -/
def IsManifest (names : List String) : Prop := ∃ crate, names = [crate, manifestName]

/-- The items of a source file, if it is a text. -/
def itemsOf (e : CodeExtractor) (dir : String) (file : List String × ByteArray) : List CodeItem :=
  match String.fromUTF8? file.2 with
  | some text => CodeItem.ofSource e.domains text.toList (pathBelow dir file.1)
  | none => []

/-- The item of a manifest, if it is a text that names and describes its crate. -/
def manifestOf? (e : CodeExtractor) (dir : String) (file : List String × ByteArray) : Option CodeItem :=
  (String.fromUTF8? file.2).bind fun text =>
    CodeItem.ofManifest? e.domains text.toList (pathBelow dir file.1)

/-- The manifest in the tree of a crate. -/
def manifestIn? (crate : String × FileTree) : Option (List String × ByteArray) :=
  match crate.2.child? manifestName with
  | some (.file content) => some ([crate.1, manifestName], content)
  | _ => none

theorem manifestIn?_eq_some_iff {crate : String × FileTree} {file : List String × ByteArray} :
    manifestIn? crate = some file ↔
      file.1 = [crate.1, manifestName] ∧ crate.2.child? manifestName = some (.file file.2) := by
  obtain ⟨names, content⟩ := file
  rw [manifestIn?]
  cases crate.2.child? manifestName with
  | none => simp
  | some t => cases t <;> simp [eq_comm]

/-- The manifests of the crates, by the names of the crates. -/
def manifests (crates : List (String × FileTree)) : List (List String × ByteArray) :=
  (FileTree.byName crates).filterMap manifestIn?

/-- The source files of a tree, in the order of the walk. -/
def sources (tree : FileTree) : List (List String × ByteArray) :=
  tree.files.filter fun (names, _) => names.getLast?.any (Path.hasExtension "rs")

theorem manifestItems_eq (e : CodeExtractor) (dir : String) (crates : List (String × FileTree)) :
    e.manifestItems dir (.dir crates) = (manifests crates).filterMap (e.manifestOf? dir) := by
  rw [manifestItems, manifests, List.filterMap_filterMap]
  refine congrArg (List.filterMap · (FileTree.byName crates)) (funext ?_)
  rintro ⟨name, crate⟩
  dsimp only [manifestIn?]
  cases crate.child? manifestName with
  | none => rfl
  | some t => cases t <;> rfl

theorem listed_manifests {crates : List (String × FileTree)} (h : (FileTree.dir crates).Named) :
    Listed (.dir crates) IsManifest (manifests crates) := by
  constructor
  · refine List.Pairwise.filterMap _ ?_ (FileTree.pairwise_byName h.1)
    intro crate crate' hlt file hfile file' hfile'
    rw [(manifestIn?_eq_some_iff.mp hfile).1, (manifestIn?_eq_some_iff.mp hfile').1]
    exact List.cons_lt_cons_iff.mpr (.inl hlt)
  · intro names content
    rw [manifests, List.mem_filterMap]
    constructor
    · rintro ⟨⟨name, crate⟩, hcrate, hfile⟩
      rw [FileTree.byName, List.mem_mergeSort] at hcrate
      obtain ⟨hnames, hchild⟩ := manifestIn?_eq_some_iff.mp hfile
      obtain rfl : names = [name, manifestName] := hnames
      refine ⟨?_, name, rfl⟩
      rw [FileTree.at?, (FileTree.child?_eq_some_iff h.1).mpr hcrate, Option.bind_some, FileTree.at?,
        hchild]
      rfl
    · rintro ⟨hat, name, rfl⟩
      obtain ⟨crate, hcrate, hrest⟩ := Option.bind_eq_some_iff.mp hat
      obtain ⟨below, hchild, hbelow⟩ := Option.bind_eq_some_iff.mp hrest
      rw [FileTree.child?_eq_some_iff h.1] at hcrate
      obtain rfl := Option.some.inj hbelow
      refine ⟨(name, crate), ?_, manifestIn?_eq_some_iff.mpr ⟨rfl, hchild⟩⟩
      rw [FileTree.byName, List.mem_mergeSort]
      exact hcrate

theorem listed_sources {tree : FileTree} (h : tree.Named) : Listed tree IsSource (sources tree) := by
  constructor
  · exact (tree.pairwise_files h).filter _
  · intro names content
    rw [sources, List.mem_filter, FileTree.mem_files h]
    rfl

/-! ## The items of a project -/

/--
The items of a project, from the tree of its crates: those of the manifests, the last one leading, then
those of the source files, and the items of one file in the order of its lines.
-/
structure Items (e : CodeExtractor) (dir : String) (tree : FileTree)
    (manifests sources : List (List String × ByteArray)) (items : List CodeItem) : Prop where
  listedManifests : Listed tree IsManifest manifests
  listedSources : Listed tree IsSource sources
  eq : items = manifests.reverse.filterMap (e.manifestOf? dir) ++ sources.flatMap (e.itemsOf dir)
  /-- A crate is filed by the name that its manifest gives. -/
  manifest : ∀ file ∈ manifests, ∀ i ∈ e.manifestOf? dir file, i.file = pathBelow dir file.1 ∧
    ∃ text name, String.fromUTF8? file.2 = some text ∧
      CodeItem.manifestField? "name".toList true text.toList = some name ∧
      i.domain = e.domains.classify (String.ofList name ++ "/src")
  /-- What a source file holds is filed by the path of the file. -/
  source : ∀ file ∈ sources, ∀ i ∈ e.itemsOf dir file,
    i.file = pathBelow dir file.1 ∧ i.domain = e.domains.classify i.file
  inLines : ∀ file ∈ sources, ∀ text, String.fromUTF8? file.2 = some text →
    CodeItem.FromLines (pathBelow dir file.1) (e.domains.classify (pathBelow dir file.1))
      ((lines text.toList).map CodeLine.ofLine) (e.itemsOf dir file)

theorem of_manifestOf? {e : CodeExtractor} {dir : String} {file : List String × ByteArray}
    {i : CodeItem} (h : e.manifestOf? dir file = some i) : i.file = pathBelow dir file.1 ∧
      ∃ text name, String.fromUTF8? file.2 = some text ∧
        CodeItem.manifestField? "name".toList true text.toList = some name ∧
        i.domain = e.domains.classify (String.ofList name ++ "/src") := by
  obtain ⟨text, htext, hitem⟩ := Option.bind_eq_some_iff.mp h
  obtain ⟨name, hname, hrest⟩ := Option.bind_eq_some_iff.mp hitem
  obtain ⟨description, _, hi⟩ := Option.bind_eq_some_iff.mp hrest
  obtain rfl := Option.some.inj hi
  exact ⟨rfl, text, name, htext, hname, rfl⟩

theorem of_mem_itemsOf {e : CodeExtractor} {dir : String} {file : List String × ByteArray}
    {i : CodeItem} (h : i ∈ e.itemsOf dir file) :
    i.file = pathBelow dir file.1 ∧ i.domain = e.domains.classify i.file := by
  rw [itemsOf] at h
  split at h
  · obtain ⟨hfile, hdomain⟩ := CodeItem.of_mem_ofLines h
    rw [hfile, hdomain]
    exact ⟨rfl, rfl⟩
  · cases h

theorem items_of_named (e : CodeExtractor) (dir : String) {crates : List (String × FileTree)}
    (h : (FileTree.dir crates).Named) :
    Items e dir (.dir crates) (manifests crates) (sources (.dir crates))
      ((e.manifestItems dir (.dir crates)).reverse ++ e.sourceItems dir (.dir crates)) where
  listedManifests := listed_manifests h
  listedSources := listed_sources h
  eq := by
    rw [manifestItems_eq, ← List.filterMap_reverse]
    rfl
  manifest := fun _ _ _ hi => of_manifestOf? hi
  source := fun _ _ _ hi => of_mem_itemsOf hi
  inLines := by
    intro file _ text htext
    rw [itemsOf, htext]
    exact CodeItem.fromLines_ofSource e.domains text.toList _

/-- Every item comes from a file below the directory of crates. -/
theorem Items.exists_names {e : CodeExtractor} {dir : String} {crates : List (String × FileTree)}
    {manifests sources : List (List String × ByteArray)} {items : List CodeItem}
    (h : Items e dir (.dir crates) manifests sources items) (hnamed : (FileTree.dir crates).Named)
    {i : CodeItem} (hi : i ∈ items) :
    ∃ names, names ≠ [] ∧ (∀ name ∈ names, Path.FileName name) ∧ i.file = pathBelow dir names := by
  rw [h.eq, List.mem_append, List.mem_filterMap, List.mem_flatMap] at hi
  rcases hi with ⟨⟨names, content⟩, hfile, hitem⟩ | ⟨⟨names, content⟩, hfile, hitem⟩
  · have hfile' := List.mem_reverse.mp hfile
    obtain ⟨hne, hplain⟩ := hnamed.names_of_file ((h.listedManifests.mem_iff names content).mp hfile').1
    exact ⟨names, hne, hplain, (h.manifest _ hfile' i hitem).1⟩
  · obtain ⟨hne, hplain⟩ := hnamed.names_of_file ((h.listedSources.mem_iff names content).mp hfile).1
    exact ⟨names, hne, hplain, (h.source _ hfile i hitem).1⟩

/-! ## Domains -/

/-- The items by their domains: each domain has its own ones, in the order given. -/
structure Grouped (items : List CodeItem) (groups : List (String × List CodeItem)) : Prop where
  ascending : groups.Pairwise fun a b => a.1 < b.1
  eq_filter : ∀ g ∈ groups, g.2 = items.filter (·.domain == g.1)
  nonempty : ∀ g ∈ groups, g.2 ≠ []
  /-- Nothing is lost and nothing comes twice. -/
  perm : (groups.flatMap (·.2)).Perm items
  one : ∀ i ∈ items, ∃! g, g ∈ groups ∧ i ∈ g.2

theorem nodup_eraseDups (labels : List String) : labels.eraseDups.Nodup := by
  match labels with
  | [] => exact List.nodup_nil
  | label :: labels =>
    rw [List.eraseDups_cons, List.nodup_cons]
    refine ⟨?_, nodup_eraseDups _⟩
    rw [List.mem_eraseDups, List.mem_filter]
    rintro ⟨_, hne⟩
    rw [beq_self_eq_true] at hne
    cases hne
termination_by labels.length
decreasing_by exact Nat.lt_succ_of_le (List.length_filter_le _ _)

/-- Filed under different labels, one of them its own, every item is there as often as before. -/
theorem perm_flatMap_filter {labels : List String} (h : labels.Nodup) {items : List CodeItem}
    (hcover : ∀ i ∈ items, i.domain ∈ labels) :
    (labels.flatMap fun label => items.filter (·.domain == label)).Perm items := by
  induction labels generalizing items with
  | nil =>
      have hnone : items = [] :=
        List.eq_nil_iff_forall_not_mem.mpr fun i hi => List.not_mem_nil (hcover i hi)
      rw [hnone]
      exact .nil
  | cons label labels ih =>
      obtain ⟨hnew, hrest⟩ := List.nodup_cons.mp h
      -- the other labels see nothing of the items under this one
      have hothers : labels.flatMap (fun other => items.filter (·.domain == other))
          = labels.flatMap fun other =>
              (items.filter fun i => !(i.domain == label)).filter (·.domain == other) := by
        refine List.flatMap_congr fun other hother => ?_
        rw [List.filter_filter]
        refine List.filter_congr fun i _ => ?_
        rw [Bool.eq_iff_iff, Bool.and_eq_true, Bool.not_eq_true', beq_iff_eq, beq_eq_false_iff_ne]
        refine ⟨fun heq => ⟨heq, ?_⟩, And.left⟩
        rintro rfl
        exact hnew (heq ▸ hother)
      have hcoverRest : ∀ i ∈ items.filter (fun i => !(i.domain == label)), i.domain ∈ labels := by
        intro i hi
        obtain ⟨hmem, hne⟩ := List.mem_filter.mp hi
        rw [Bool.not_eq_true', beq_eq_false_iff_ne] at hne
        exact (List.mem_cons.mp (hcover i hmem)).resolve_left hne
      rw [List.flatMap_cons, hothers]
      exact ((ih hrest hcoverRest).append_left _).trans (List.filter_append_perm _ items)

theorem grouped_group (items : List CodeItem) : Grouped items (group items) := by
  let labels := (items.map (·.domain)).eraseDups.mergeSort fun a b => !decide (b < a)
  have hlabels : labels.Pairwise (· < ·) :=
    FileTree.pairwise_mergeSort_key id (by rw [List.map_id]; exact nodup_eraseDups _)
  have hmem : ∀ {label}, label ∈ labels ↔ ∃ i ∈ items, i.domain = label := by
    intro label
    rw [List.mem_mergeSort, List.mem_eraseDups, List.mem_map]
  have hgroup : ∀ {g}, g ∈ group items ↔
      g.1 ∈ labels ∧ g.2 = items.filter (·.domain == g.1) := by
    rintro ⟨label, list⟩
    rw [group, List.mem_map]
    constructor
    · rintro ⟨label', hlabel, heq⟩
      obtain ⟨rfl, rfl⟩ := Prod.mk.inj heq
      exact ⟨hlabel, rfl⟩
    · rintro ⟨hlabel, hlist⟩
      exact ⟨label, hlabel, Prod.ext rfl hlist.symm⟩
  refine ⟨?_, fun g hg => (hgroup.mp hg).2, ?_, ?_, ?_⟩
  · exact List.pairwise_map.mpr hlabels
  · intro g hg hnil
    obtain ⟨i, hi, hdomain⟩ := hmem.mp (hgroup.mp hg).1
    have hin : i ∈ g.2 := by
      rw [(hgroup.mp hg).2, List.mem_filter, beq_iff_eq]
      exact ⟨hi, hdomain⟩
    rw [hnil] at hin
    cases hin
  · rw [group, List.flatMap_map]
    refine perm_flatMap_filter (hlabels.imp fun h => ne_of_lt h) fun i hi => ?_
    exact hmem.mpr ⟨i, hi, rfl⟩
  · intro i hi
    refine ⟨(i.domain, items.filter (·.domain == i.domain)), ⟨?_, ?_⟩, ?_⟩
    · exact hgroup.mpr ⟨hmem.mpr ⟨i, hi, rfl⟩, rfl⟩
    · exact List.mem_filter.mpr ⟨hi, beq_self_eq_true _⟩
    · rintro ⟨label, list⟩ ⟨hg, hin⟩
      obtain rfl : list = items.filter (·.domain == label) := (hgroup.mp hg).2
      rw [List.mem_filter, beq_iff_eq] at hin
      rw [hin.2]

/-! ## The text of a domain -/

theorem paragraphs_joinWith (texts : List (List Char)) :
    paragraphs (joinWith blankLine texts) = texts.flatMap paragraphs := by
  induction texts with
  | nil => exact paragraphs_nil
  | cons text texts ih =>
      cases texts with
      | nil => rw [joinWith, List.flatMap_singleton]
      | cons next texts =>
          have hjoin : joinWith blankLine (text :: next :: texts)
              = text ++ (blankLine ++ joinWith blankLine (next :: texts)) := List.append_assoc _ _ _
          rw [hjoin, paragraphs_append_blankLine, ih]
          rfl

/-- Leaving out what is empty leaves out no paragraph. -/
theorem flatMap_paragraphs_filter (texts : List (List Char)) :
    (texts.filter (!·.isEmpty)).flatMap paragraphs = texts.flatMap paragraphs := by
  induction texts with
  | nil => rfl
  | cons text texts ih =>
      cases text with
      | nil =>
          rw [List.filter_cons_of_neg (by decide), ih, List.flatMap_cons, paragraphs_nil, List.nil_append]
      | cons c text =>
          rw [List.filter_cons_of_pos rfl, List.flatMap_cons, List.flatMap_cons, ih]

/-- **The paragraphs of a domain are those of its items.** -/
theorem paragraphs_domainText (items : List CodeItem) :
    paragraphs (domainText items) = items.flatMap fun i => paragraphs i.render := by
  rw [domainText, paragraphs_joinWith, flatMap_paragraphs_filter, List.flatMap_map]
  exact List.flatMap_congr fun i _ => paragraphs_trim i.render

/-- The text of an item: its doc text and its signature, those that there are, with a line break between. -/
def itemText (i : CodeItem) : List Char := joinWith ['\n'] ([i.doc, i.signature].filter (!·.isEmpty))

theorem render_eq_itemText (i : CodeItem) : i.render = itemText i := by
  obtain ⟨doc, signature, domain, file⟩ := i
  cases doc with
  | nil => cases signature <;> rfl
  | cons c doc =>
      cases signature with
      | nil => rfl
      | cons d signature => exact List.append_cons _ _ _

/-- The texts of items, those that are not blank, with a blank line between any two. -/
def itemTexts (items : List CodeItem) : List Char :=
  joinWith blankLine ((items.map fun i => trim (itemText i)).filter (!·.isEmpty))

theorem domainText_eq_itemTexts (items : List CodeItem) : domainText items = itemTexts items := by
  rw [domainText, itemTexts]
  simp only [render_eq_itemText]

/-- The chunks of a domain, from the text of its items; the first of them gives the source. -/
structure DomainChunks (e : CodeExtractor) (g : String × List CodeItem) (chunks : List Chunk) : Prop where
  eq : ∃ first source, g.2.head? = some first ∧ Labels first.file source ∧
    chunks = ((e.segmenter.segment (itemTexts g.2)).filter (e.minChars < ·.length)).map fun piece =>
      ⟨String.ofList piece, source, g.1, .code⟩
  paragraphs : paragraphs (itemTexts g.2) = g.2.flatMap fun i => paragraphs (itemText i)

theorem domainChunks (e : CodeExtractor) (codeDir domain : String) {items : List CodeItem}
    (hne : items ≠ [])
    (hfiles : ∀ i ∈ items, ∃ names, names ≠ [] ∧ (∀ name ∈ names, Path.FileName name) ∧
      i.file = pathBelow (Path.join codeDir cratesDir) names) :
    DomainChunks e (domain, items) (e.chunkDomain domain items) := by
  have hparagraphs := paragraphs_domainText items
  simp only [domainText_eq_itemTexts, render_eq_itemText] at hparagraphs
  refine ⟨?_, hparagraphs⟩
  cases items with
  | nil => exact absurd rfl hne
  | cons first rest =>
      obtain ⟨names, hnames, hplain, hfile⟩ := hfiles first List.mem_cons_self
      obtain ⟨label, hlabel⟩ := exists_sourceLabel hnames hplain
      obtain ⟨heq, hlabels⟩ := hlabel codeDir
      refine ⟨first, label, rfl, ?_, ?_⟩
      · rw [hfile]
        exact hlabels
      · rw [chunkDomain, hfile, heq, domainText_eq_itemTexts]

/--
**No item is lost, repeated or misfiled.** The items of the manifests and the source files fall into
domains, and the chunks come domain by domain.
-/
theorem load_by_domain (e : CodeExtractor) {d : Disk} {codeDir : String}
    {crates : List (String × FileTree)} (hget : d.get (Path.join codeDir cratesDir) = .ok (.dir crates))
    (hnamed : (FileTree.dir crates).Named) :
    ∃ manifests sources items groups lists,
      Items e (Path.join codeDir cratesDir) (.dir crates) manifests sources items ∧
      Grouped items groups ∧
      List.Forall₂ (DomainChunks e) groups lists ∧
      e.load d codeDir = lists.flatten := by
  let dir := Path.join codeDir cratesDir
  let items := (e.manifestItems dir (.dir crates)).reverse ++ e.sourceItems dir (.dir crates)
  have hitems := items_of_named e dir hnamed
  have hgrouped : Grouped items (group items) := grouped_group items
  refine ⟨_, _, items, group items, (group items).map fun g => e.chunkDomain g.1 g.2, hitems, hgrouped,
    ?_, ?_⟩
  · rw [List.forall₂_map_right_iff, List.forall₂_same]
    rintro ⟨domain, list⟩ hg
    refine domainChunks e codeDir domain (hgrouped.nonempty _ hg) fun i hi => ?_
    have hmem : i ∈ items := by
      have hlist : list = items.filter (·.domain == domain) := hgrouped.eq_filter _ hg
      rw [hlist] at hi
      exact (List.mem_filter.mp hi).1
    exact hitems.exists_names hnamed hmem
  · rw [load, hget]
    exact List.flatMap_def

/-- The sources of a crate. -/
def vaultSources : String × FileTree :=
  ("src", .dir
    [("lib.rs", .file "/// Derive the master key.\npub fn derive(passphrase: &str) -> Key \x7b\n\x7d\n".toUTF8)])

/-- A project of one crate. -/
def vault : List (String × FileTree) :=
  [("vault", .dir
    [("Cargo.toml", .file "name = \"vault\"\ndescription = \"Keys at rest\"\n".toUTF8), vaultSources])]

theorem fileName_vault : Path.FileName "vault" := ⟨by decide, by decide, by decide, by decide⟩

theorem named_vaultSources : FileTree.AllNamed [vaultSources] := by
  have hsrc : Path.FileName "src" := ⟨by decide, by decide, by decide, by decide⟩
  have hlib : Path.FileName "lib.rs" := ⟨by decide, by decide, by decide, by decide⟩
  exact ⟨⟨hsrc, by decide, ⟨hlib, trivial⟩, trivial⟩, trivial⟩

theorem named_vault : (FileTree.dir vault).Named := by
  have hmanifest : Path.FileName "Cargo.toml" := ⟨by decide, by decide, by decide, by decide⟩
  exact ⟨by decide, ⟨fileName_vault, by decide, ⟨hmanifest, trivial⟩, named_vaultSources⟩, trivial⟩

/-- A disk with the project in a directory. -/
def checkout : Disk := ⟨.dir [("work", .dir [("crates", .dir vault)])], []⟩

/-- The domains of the documented project, pieces of up to 2000 characters, and short ones dropped. -/
def sample : CodeExtractor := ⟨.standard, ⟨2000, 100⟩, 50⟩

theorem load_by_domain_vault : checkout.get (Path.join "work" cratesDir) = .ok (.dir vault) ∧
    (FileTree.dir vault).Named ∧ ∃ manifests sources items groups lists,
      Items sample (Path.join "work" cratesDir) (.dir vault) manifests sources items ∧
      Grouped items groups ∧
      List.Forall₂ (DomainChunks sample) groups lists ∧
      sample.load checkout "work" = lists.flatten := by
  have hget : checkout.get (Path.join "work" cratesDir) = .ok (.dir vault) := rfl
  exact ⟨hget, named_vault, load_by_domain sample hget named_vault⟩

end Grounded.CodeExtractor
