import Mathlib.Data.List.Find
import Mathlib.Data.List.Infix
import Grounded.Proofs.DomainTexts
import Grounded.Proofs.TextSearch

/-!
# A project in another place

The source label of a chunk is cut off at the directory of crates, so it is the same wherever the project
is. The domain of a source file goes by the whole path, and there the names above the project count. Where
they make no difference to any file, the same project gives the same chunks.
-/

namespace Grounded

namespace Disk

/-- The path leads to a directory that holds the project. -/
def Holds (d : Disk) (dir : String) (project : FileTree) : Prop :=
  ∃ place, d.LeadsTo dir place ∧ d.tree.at? place = some project

theorem Holds.get_join {d : Disk} {dir name : String} {project : FileTree} (h : d.Holds dir project)
    (hname : Path.FileName name) : d.get (Path.join dir name) = match project.child? name with
      | some t => .ok t
      | none => .error .notFound := by
  obtain ⟨place, hleads, hat⟩ := h
  have hchild : project.at? [name] = project.child? name := by
    rw [FileTree.at?]
    cases project.child? name <;> rfl
  have hget := hleads.get_join hname
  rw [FileTree.at?_append, hat, Option.bind_some, hchild] at hget
  exact hget

end Disk

namespace DomainTable

/-- No fragment of the table is in the text, and none begins at its end. -/
def Apart (t : DomainTable) (above : List Char) : Prop :=
  ∀ entry ∈ t.entries, ∀ s ∈ above.tails, s ≠ [] → ¬ entry.1.toList <+: s ∧ ¬ s <+: entry.1.toList

instance (t : DomainTable) (above : List Char) : Decidable (t.Apart above) :=
  inferInstanceAs (Decidable (∀ entry ∈ t.entries, ∀ s ∈ above.tails, s ≠ [] →
    ¬ entry.1.toList <+: s ∧ ¬ s <+: entry.1.toList))

theorem classify_eq (t : DomainTable) (path : String) : t.classify path
    = ((t.entries.find? fun entry => Text.includes entry.1.toList (forwardSlashes path).toList).map
        (·.2)).getD other := by
  rw [classify]
  cases t.entries.find? fun entry => Text.includes entry.1.toList (forwardSlashes path).toList <;> rfl

end DomainTable

namespace CodeExtractor

open Text

/-! ## Domains and labels of the same file in different places -/

theorem slashed_slashed (c : Char) : slashed (slashed c) = slashed c := by
  by_cases h : (c == '\\') = true
  · rw [slashed, slashed, if_pos h]
    rfl
  · rw [slashed, slashed, if_neg h, if_neg h]

/-- **Apart from the fragments, the part above is not seen:** the domain is that of the path below. -/
theorem classify_of_apart {t : DomainTable} {codeDir : String}
    (h : t.Apart ((above codeDir).map slashed)) {names : List String}
    (hnames : ∀ name ∈ names, Path.FileName name) :
    t.classify (pathBelow (Path.join codeDir cratesDir) names)
      = t.classify (pathBelow (Path.join "" cratesDir) names) := by
  have hpath : ∀ dir, (DomainTable.forwardSlashes (pathBelow (Path.join dir cratesDir) names)).toList
      = (above dir).map slashed ++ (cratesDir.toList ++ Path.onward names).map slashed := by
    intro dir
    rw [toList_forwardSlashes, toList_pathBelow dir hnames, ← List.map_append, List.map_map]
    exact List.map_congr_left fun c _ => slashed_slashed c
  have hfind : t.entries.find? (fun entry => includes entry.1.toList
        (DomainTable.forwardSlashes (pathBelow (Path.join codeDir cratesDir) names)).toList)
      = t.entries.find? fun entry => includes entry.1.toList
        (DomainTable.forwardSlashes (pathBelow (Path.join "" cratesDir) names)).toList := by
    refine List.find?_congr fun entry hentry => ?_
    rw [hpath, hpath]
    exact includes_append_of_apart (fun s hs hne => h entry hentry s ((List.mem_tails s _).mpr hs) hne) _
  rw [DomainTable.classify_eq, DomainTable.classify_eq, hfind]

theorem sourceLabel_congr {names : List String} (hne : names ≠ [])
    (hnames : ∀ name ∈ names, Path.FileName name) (dir₁ dir₂ : String) :
    sourceLabel (pathBelow (Path.join dir₁ cratesDir) names)
      = sourceLabel (pathBelow (Path.join dir₂ cratesDir) names) := by
  obtain ⟨label, hlabel⟩ := exists_sourceLabel hne hnames
  exact (hlabel dir₁).1.trans (hlabel dir₂).1.symm

/-! ## What chunks show of an item -/

/-- The item with the label of its file for the path. -/
def labelled (i : CodeItem) : CodeItem := { i with file := sourceLabel i.file }

/-- Only the path of an item differs if the file is elsewhere. -/
theorem map_labelled_ofLines (file domain : String) (pending : List (List Char)) (emitted : Bool)
    (lines : List CodeLine) : (CodeItem.ofLines file domain pending emitted lines).map labelled
      = CodeItem.ofLines (sourceLabel file) domain pending emitted lines := by
  induction lines generalizing pending emitted with
  | nil =>
      rw [CodeItem.ofLines, CodeItem.ofLines]
      split <;> rfl
  | cons line lines ih =>
      cases line with
      | doc text => rw [CodeItem.ofLines, CodeItem.ofLines, ih]
      | neutral => rw [CodeItem.ofLines, CodeItem.ofLines, ih]
      | tests =>
          rw [CodeItem.ofLines, CodeItem.ofLines]
          split <;> rfl
      | declaration signature =>
          rw [CodeItem.ofLines, CodeItem.ofLines]
          split
          · rw [List.map_cons, ih]
            rfl
          · exact ih [] emitted
      | other =>
          rw [CodeItem.ofLines, CodeItem.ofLines]
          split
          · rw [List.map_cons, ih]
            rfl
          · exact ih [] emitted

theorem labelled_ofManifest? (domains : DomainTable) (content : List Char) (file : String) :
    (CodeItem.ofManifest? domains content file).map labelled
      = CodeItem.ofManifest? domains content (sourceLabel file) := by
  rw [CodeItem.ofManifest?, CodeItem.ofManifest?]
  cases CodeItem.manifestField? "name".toList true content with
  | none => rfl
  | some name => cases CodeItem.manifestField? "description".toList true content <;> rfl

/-- **A domain's chunks show of its items no more than this.** -/
theorem chunkDomain_congr (e : CodeExtractor) (domain : String) {items items' : List CodeItem}
    (h : items.map labelled = items'.map labelled) :
    e.chunkDomain domain items = e.chunkDomain domain items' := by
  have htext : domainText items = domainText items' := by
    have hrender : ∀ l : List CodeItem,
        l.map (fun i => trim i.render) = (l.map labelled).map fun i => trim i.render := by
      intro l
      rw [List.map_map]
      rfl
    rw [domainText, domainText, hrender items, h, ← hrender items']
  cases items with
  | nil =>
      rw [List.map_eq_nil_iff.mp h.symm]
  | cons first rest =>
      cases items' with
      | nil => cases h
      | cons first' rest' =>
          have hsource : sourceLabel first.file = sourceLabel first'.file :=
            congrArg CodeItem.file (List.cons.inj h).1
          rw [chunkDomain, chunkDomain, htext, hsource]

theorem chunkDomains_group_congr (e : CodeExtractor) {items items' : List CodeItem}
    (h : items.map labelled = items'.map labelled) :
    e.chunkDomains (group items) = e.chunkDomains (group items') := by
  have hdomains : items.map (·.domain) = items'.map (·.domain) := by
    have hdomain : ∀ l : List CodeItem, l.map (·.domain) = (l.map labelled).map (·.domain) := by
      intro l
      rw [List.map_map]
      rfl
    rw [hdomain items, h, ← hdomain items']
  have hfilter : ∀ (l : List CodeItem) label,
      (l.filter (·.domain == label)).map labelled = (l.map labelled).filter (·.domain == label) := by
    intro l label
    rw [List.filter_map]
    rfl
  rw [chunkDomains, chunkDomains, group, group, hdomains, List.flatMap_map, List.flatMap_map]
  refine List.flatMap_congr fun label _ => e.chunkDomain_congr label ?_
  rw [hfilter, h, ← hfilter]

/-! ## The same project in two places -/

section

variable (e : CodeExtractor) {dir₁ dir₂ : String} {crates : List (String × FileTree)}
  (h : (FileTree.dir crates).Named)

include h

theorem map_labelled_manifestItems :
    (e.manifestItems (Path.join dir₁ cratesDir) (.dir crates)).map labelled
      = (e.manifestItems (Path.join dir₂ cratesDir) (.dir crates)).map labelled := by
  rw [manifestItems_eq, manifestItems_eq, List.map_filterMap, List.map_filterMap]
  refine List.filterMap_congr fun file hfile => ?_
  obtain ⟨hat, _⟩ := ((listed_manifests h).mem_iff file.1 file.2).mp hfile
  obtain ⟨hne, hnames⟩ := h.names_of_file hat
  rw [manifestOf?, manifestOf?, Option.map_bind, Option.map_bind]
  refine congrArg (Option.bind (String.fromUTF8? file.2)) (funext fun text => ?_)
  rw [Function.comp, Function.comp, labelled_ofManifest?, labelled_ofManifest?,
    sourceLabel_congr hne hnames dir₁ dir₂]

theorem map_labelled_sourceItems
    (hdomains : ∀ names content, (FileTree.dir crates).at? names = some (.file content) →
      IsSource names → e.domains.classify (pathBelow (Path.join dir₁ cratesDir) names)
        = e.domains.classify (pathBelow (Path.join dir₂ cratesDir) names)) :
    (e.sourceItems (Path.join dir₁ cratesDir) (.dir crates)).map labelled
      = (e.sourceItems (Path.join dir₂ cratesDir) (.dir crates)).map labelled := by
  have hitems : ∀ dir, e.sourceItems dir (.dir crates)
      = (sources (.dir crates)).flatMap (e.itemsOf dir) := fun _ => rfl
  rw [hitems, hitems, List.map_flatMap, List.map_flatMap]
  refine List.flatMap_congr fun file hfile => ?_
  obtain ⟨hat, hsource⟩ := ((listed_sources h).mem_iff file.1 file.2).mp hfile
  obtain ⟨hne, hnames⟩ := h.names_of_file hat
  rw [itemsOf, itemsOf]
  cases String.fromUTF8? file.2 with
  | none => rfl
  | some text =>
      dsimp only
      rw [CodeItem.ofSource, CodeItem.ofSource, map_labelled_ofLines, map_labelled_ofLines,
        hdomains _ _ hat hsource, sourceLabel_congr hne hnames dir₁ dir₂]

end

/--
**The same project gives the same chunks** in two places in which its source files have the same domains.
Nothing else depends on the place: neither the sources, nor the order, nor where a crate is filed.
-/
theorem load_of_classified_alike (e : CodeExtractor) {d₁ d₂ : Disk} {dir₁ dir₂ : String}
    {project : FileTree} (h₁ : d₁.Holds dir₁ project) (h₂ : d₂.Holds dir₂ project)
    (hnamed : project.Named)
    (hdomains : ∀ names content, project.at? (cratesDir :: names) = some (.file content) →
      IsSource names → e.domains.classify (pathBelow (Path.join dir₁ cratesDir) names)
        = e.domains.classify (pathBelow (Path.join dir₂ cratesDir) names)) :
    e.load d₁ dir₁ = e.load d₂ dir₂ := by
  rw [load, load, h₁.get_join fileName_cratesDir, h₂.get_join fileName_cratesDir]
  cases hcrates : project.child? cratesDir with
  | none => rfl
  | some t =>
      cases t with
      | file content => rfl
      | dir crates =>
          have hbelow : (FileTree.dir crates).Named := (hnamed.of_child? hcrates).2
          refine e.chunkDomains_group_congr ?_
          rw [List.map_append, List.map_append, List.map_reverse, List.map_reverse,
            map_labelled_manifestItems e hbelow, map_labelled_sourceItems e hbelow]
          intro names content hat
          refine hdomains names content ?_
          rw [FileTree.at?, hcrates]
          exact hat

/-- A project whose only crate has no manifest. -/
def bare : FileTree := .dir [("crates", .dir [("vault", .dir [vaultSources])])]

theorem named_bare : bare.Named :=
  ⟨by decide, ⟨fileName_cratesDir, by decide, ⟨fileName_vault, by decide, named_vaultSources⟩, trivial⟩, trivial⟩

/-- A disk with three copies of the project, the last one below a directory that the table knows. -/
def copies : Disk where
  tree := .dir
    [("work", bare), ("home", .dir [("work", bare)]),
     ("sovereign-ui", .dir [("src", .dir [("work", bare)])])]
  cwd := []

theorem holds_work : copies.Holds "work" bare := ⟨["work"], ⟨rfl, _, rfl⟩, rfl⟩

theorem load_of_classified_alike_home : copies.Holds "work" bare ∧ copies.Holds "home/work" bare ∧
    bare.Named ∧ sample.load copies "work" = sample.load copies "home/work" := by
  have hhome : copies.Holds "home/work" bare := ⟨["home", "work"], ⟨rfl, _, rfl⟩, rfl⟩
  have hapart : ∀ dir ∈ ["work", "home/work"], sample.domains.Apart ((above dir).map slashed) := by
    decide +kernel
  refine ⟨holds_work, hhome, named_bare,
    load_of_classified_alike sample holds_work hhome named_bare ?_⟩
  intro names content hat _
  obtain ⟨_, hnames⟩ := List.forall_mem_cons.mp (named_bare.fileName_of_at? hat)
  exact (classify_of_apart (hapart "work" (by decide)) hnames).trans
    (classify_of_apart (hapart "home/work" (by decide)) hnames).symm

/-- A name above the project files its sources elsewhere. -/
theorem not_load_of_holds :
    ¬ ∀ (e : CodeExtractor) (d : Disk) (dir₁ dir₂ : String) (project : FileTree),
      d.Holds dir₁ project → d.Holds dir₂ project → project.Named → e.load d dir₁ = e.load d dir₂ := by
  intro h
  have hbelow : copies.Holds "sovereign-ui/src/work" bare :=
    ⟨["sovereign-ui", "src", "work"], ⟨rfl, _, rfl⟩, rfl⟩
  have hchunks : sample.load copies "work" ≠ sample.load copies "sovereign-ui/src/work" := by
    decide +kernel
  exact hchunks (h sample copies _ _ bare holds_work hbelow named_bare)

end CodeExtractor

end Grounded
