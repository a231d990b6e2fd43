import Mathlib.Data.List.Sort
import Grounded.Index.Build
import Grounded.Proofs.DomainTexts
import Grounded.Proofs.FileChanges

/-!
# Files that are no texts

A page, a document, a source file or a manifest counts only if it is a text. So all that is collected
depends on the directories of a disk and on the texts in them (`SameTexts`), and a file with other bytes
might as well not be there. That is shown for each of the places where a file is read, and for the lists of
source files and manifests, where a file that cannot be read stands among others.
-/

namespace Grounded

namespace FileTree

theorem Named.of_at? {t below : FileTree} (h : t.Named) {place : List String}
    (hat : t.at? place = some below) : below.Named := by
  induction place generalizing t with
  | nil =>
      cases hat
      exact h
  | cons name place ih =>
      obtain ⟨next, hnext, hbelow⟩ := Option.bind_eq_some_iff.mp hat
      exact ih (h.of_child? hnext).2 hbelow

/-- The bytes are those of a text. -/
def IsText (content : ByteArray) : Prop := (String.fromUTF8? content).isSome = true

/-- The trees have the same directories, and the same texts at the same places. -/
structure SameTexts (t t' : FileTree) : Prop where
  dirAt_iff : ∀ place, t.DirAt place ↔ t'.DirAt place
  text_iff : ∀ place content, IsText content →
    (t.at? place = some (.file content) ↔ t'.at? place = some (.file content))

theorem SameTexts.symm {t t' : FileTree} (h : t.SameTexts t') : t'.SameTexts t :=
  ⟨fun place => (h.dirAt_iff place).symm, fun place content htext => (h.text_iff place content htext).symm⟩

/-- What is below the same place has the same texts. -/
theorem SameTexts.at? {t t' below below' : FileTree} (h : t.SameTexts t') {place : List String}
    (hbelow : t.at? place = some below) (hbelow' : t'.at? place = some below') :
    below.SameTexts below' := by
  have hrest : ∀ rest, t.at? (place ++ rest) = below.at? rest := fun rest => by
    rw [at?_append, hbelow, Option.bind_some]
  have hrest' : ∀ rest, t'.at? (place ++ rest) = below'.at? rest := fun rest => by
    rw [at?_append, hbelow', Option.bind_some]
  constructor
  · intro rest
    have hdir := h.dirAt_iff (place ++ rest)
    rwa [DirAt, DirAt, hrest, hrest'] at hdir
  · intro rest content htext
    have hfile := h.text_iff (place ++ rest) content htext
    rwa [hrest, hrest'] at hfile

/-- **Overwriting with what is no text leaves the same texts as taking away.** -/
theorem sameTexts_changed {t : FileTree} (h : t.Named) (which : List String → Bool)
    {content : List String → ByteArray} (hcontent : ∀ place, which place → ¬ IsText (content place)) :
    (t.changedBelow fun place old => some (if which place then content place else old)).SameTexts
      (t.changedBelow fun place old => if which place then none else some old) := by
  cases t with
  | file c => exact ⟨fun _ => Iff.rfl, fun _ _ _ => Iff.rfl⟩
  | dir entries =>
      constructor
      · intro place
        exact (dirAt_changed_iff h rfl place).trans (dirAt_changed_iff h rfl place).symm
      · intro place new htext
        refine (file_changed_iff h rfl place new).trans
          (Iff.trans ?_ (file_changed_iff h rfl place new).symm)
        refine exists_congr fun old => and_congr_right fun _ => ?_
        by_cases hwhich : which place
        · rw [if_pos hwhich, if_pos hwhich]
          constructor
          · intro heq
            exact absurd (Option.some.inj heq ▸ htext) (hcontent place hwhich)
          · intro heq
            cases heq
        · rw [if_neg hwhich, if_neg hwhich]

end FileTree

namespace Disk

/-- Two disks with the same directories and the same texts. -/
structure SameTexts (d d' : Disk) : Prop where
  cwd : d.cwd = d'.cwd
  tree : d.tree.SameTexts d'.tree

theorem SameTexts.symm {d d' : Disk} (h : d.SameTexts d') : d'.SameTexts d := ⟨h.cwd.symm, h.tree.symm⟩

/-! ## What is read -/

theorem SameTexts.place {d d' : Disk} (h : d.SameTexts d') {path : String} {place : List String}
    (hplace : d.place path = .ok place) : d'.place path = .ok place := by
  rw [Disk.place] at hplace ⊢
  split at hplace
  · cases hplace
  · rename_i hne
    rw [if_neg hne, ← h.cwd]
    exact follow_mono (fun p hp => (h.tree.dirAt_iff p).mp hp) hplace

theorem get_eq_ok_iff {d : Disk} {path : String} {t : FileTree} : d.get path = .ok t ↔
    ∃ place, d.place path = .ok place ∧ d.tree.at? place = some t := by
  rw [get]
  cases d.place path with
  | error e => simp [bind, Except.bind]
  | ok place =>
      simp only [bind, Except.bind, Except.ok.injEq, exists_eq_left']
      cases d.tree.at? place <;> simp

theorem readText_eq_ok_iff {d : Disk} {path text : String} : d.readText path = .ok text ↔
    ∃ content, d.get path = .ok (.file content) ∧ String.fromUTF8? content = some text := by
  rw [readText, read]
  cases d.get path with
  | error e => simp [bind, Except.bind]
  | ok t =>
      cases t with
      | dir entries => simp [bind, Except.bind]
      | file content =>
          simp only [bind, Except.bind, Except.ok.injEq, FileTree.file.injEq, exists_eq_left']
          cases String.fromUTF8? content <;> simp

theorem SameTexts.readText {d d' : Disk} (h : d.SameTexts d') {path text : String}
    (htext : d.readText path = .ok text) : d'.readText path = .ok text := by
  obtain ⟨content, hget, hcontent⟩ := readText_eq_ok_iff.mp htext
  obtain ⟨place, hplace, hat⟩ := get_eq_ok_iff.mp hget
  have hsome : FileTree.IsText content := Option.isSome_iff_exists.mpr ⟨text, hcontent⟩
  have hat' := (h.tree.text_iff place content hsome).mp hat
  exact readText_eq_ok_iff.mpr ⟨content, get_eq_ok_iff.mpr ⟨place, h.place hplace, hat'⟩, hcontent⟩

/-- The text of a file is the same, and so is that there is none. -/
theorem SameTexts.toOption_readText {d d' : Disk} (h : d.SameTexts d') (path : String) :
    (d.readText path).toOption = (d'.readText path).toOption := by
  refine Option.ext fun text => ?_
  have hiff : ∀ d : Disk, (d.readText path).toOption = some text ↔ d.readText path = .ok text := by
    intro d
    cases d.readText path <;> simp [Except.toOption]
  rw [hiff, hiff]
  exact ⟨h.readText, h.symm.readText⟩

/-- A directory is found where one is found on the other disk. -/
theorem SameTexts.get_dir {d d' : Disk} (h : d.SameTexts d') {path : String}
    {entries : List (String × FileTree)} (hget : d.get path = .ok (.dir entries)) :
    ∃ entries', d'.get path = .ok (.dir entries') ∧
      (FileTree.dir entries).SameTexts (.dir entries') := by
  obtain ⟨place, hplace, hat⟩ := get_eq_ok_iff.mp hget
  obtain ⟨entries', hat'⟩ := (h.tree.dirAt_iff place).mp ⟨entries, hat⟩
  exact ⟨entries', get_eq_ok_iff.mpr ⟨place, h.place hplace, hat'⟩, h.tree.at? hat hat'⟩

theorem exists_entries_of_isDir {d : Disk} {path : String} (h : d.isDir path = true) :
    ∃ entries, d.get path = .ok (.dir entries) := by
  rw [isDir] at h
  split at h
  · rename_i t hget
    cases t with
    | file content => cases h
    | dir entries => exact ⟨entries, hget⟩
  · cases h

theorem SameTexts.isDir_of {d d' : Disk} (h : d.SameTexts d') {path : String}
    (hdir : d.isDir path = true) : d'.isDir path = true := by
  obtain ⟨entries, hget⟩ := exists_entries_of_isDir hdir
  obtain ⟨entries', hget', _⟩ := h.get_dir hget
  rw [isDir, hget']
  rfl

theorem SameTexts.isDir {d d' : Disk} (h : d.SameTexts d') (path : String) :
    d.isDir path = d'.isDir path := Bool.eq_iff_iff.mpr ⟨h.isDir_of, h.symm.isDir_of⟩

/-- The names below a directory of a disk are file names. -/
theorem named_of_get {d : Disk} (h : d.tree.Named) {path : String} {t : FileTree}
    (hget : d.get path = .ok t) : t.Named := by
  obtain ⟨place, _, hat⟩ := get_eq_ok_iff.mp hget
  exact h.of_at? hat

end Disk

/-! ## Code -/

namespace CodeExtractor

/-- The files that are texts. -/
def texts (files : List (List String × ByteArray)) : List (List String × ByteArray) :=
  files.filter fun file => (String.fromUTF8? file.2).isSome

/-- Trees with the same texts list the same ones. -/
theorem Listed.texts_eq {t t' : FileTree} (h : t.SameTexts t') {which : List String → Prop}
    {files files' : List (List String × ByteArray)} (hfiles : Listed t which files)
    (hfiles' : Listed t' which files') : texts files = texts files' := by
  have hmem : ∀ file, file ∈ texts files ↔ file ∈ texts files' := by
    rintro ⟨names, content⟩
    rw [texts, texts, List.mem_filter, List.mem_filter, hfiles.mem_iff, hfiles'.mem_iff]
    refine and_congr_left fun htext => and_congr_left fun _ => ?_
    exact h.text_iff names content htext
  -- both lists are in the strict order of the paths
  have : Std.Irrefl fun a b : List String × ByteArray => a.1 < b.1 := ⟨fun a => lt_irrefl a.1⟩
  have : Std.Antisymm fun a b : List String × ByteArray => a.1 < b.1 :=
    ⟨fun _ _ hab hba => absurd hba (lt_asymm hab)⟩
  exact List.Pairwise.eq_of_mem_iff (hfiles.ordered.filter _) (hfiles'.ordered.filter _) hmem

theorem flatMap_texts {β : Type} {f : List String × ByteArray → List β}
    (hf : ∀ file, String.fromUTF8? file.2 = none → f file = [])
    (files : List (List String × ByteArray)) : (texts files).flatMap f = files.flatMap f := by
  induction files with
  | nil => rfl
  | cons file files ih =>
      rw [texts] at ih ⊢
      cases hfile : String.fromUTF8? file.2 with
      | none => rw [List.filter_cons_of_neg (by simp [hfile]), ih, List.flatMap_cons, hf file hfile,
          List.nil_append]
      | some text => rw [List.filter_cons_of_pos (by simp [hfile]), List.flatMap_cons, List.flatMap_cons, ih]

/-- **The items of the source files are those of the texts.** -/
theorem sourceItems_of_sameTexts (e : CodeExtractor) (dir : String) {t t' : FileTree} (h : t.Named)
    (h' : t'.Named) (hsame : t.SameTexts t') : e.sourceItems dir t = e.sourceItems dir t' := by
  have hitems : ∀ t, e.sourceItems dir t = (texts (sources t)).flatMap (e.itemsOf dir) := by
    intro t
    rw [flatMap_texts]
    · rfl
    · intro file hfile
      rw [itemsOf, hfile]
  rw [hitems, hitems, (listed_sources h).texts_eq hsame (listed_sources h')]

/-- **The items of the manifests are those of the texts.** -/
theorem manifestItems_of_sameTexts (e : CodeExtractor) (dir : String)
    {crates crates' : List (String × FileTree)} (h : (FileTree.dir crates).Named)
    (h' : (FileTree.dir crates').Named) (hsame : (FileTree.dir crates).SameTexts (.dir crates')) :
    e.manifestItems dir (.dir crates) = e.manifestItems dir (.dir crates') := by
  have hitems : ∀ crates, e.manifestItems dir (.dir crates)
      = (texts (manifests crates)).flatMap fun file => (e.manifestOf? dir file).toList := by
    intro crates
    rw [manifestItems_eq, flatMap_texts, List.filterMap_eq_flatMap_toList]
    intro file hfile
    rw [manifestOf?, hfile]
    rfl
  rw [hitems, hitems, (listed_manifests h).texts_eq hsame (listed_manifests h')]

theorem load_of_noDir (e : CodeExtractor) {d : Disk} {codeDir : String}
    (h : d.isDir (Path.join codeDir cratesDir) = false) : e.load d codeDir = [] := by
  rw [Disk.isDir] at h
  rw [load]
  split at h
  · rename_i t hget
    cases t with
    | file content => rw [hget]
    | dir entries => cases h
  · rename_i cause hget
    rw [hget]

theorem load_of_sameTexts (e : CodeExtractor) {d d' : Disk} (h : d.tree.Named) (h' : d'.tree.Named)
    (hsame : d.SameTexts d') (codeDir : String) : e.load d codeDir = e.load d' codeDir := by
  cases hdir : d.isDir (Path.join codeDir cratesDir) with
  | false =>
      have hdir' := (hsame.isDir (Path.join codeDir cratesDir)).symm.trans hdir
      rw [e.load_of_noDir hdir, e.load_of_noDir hdir']
  | true =>
      obtain ⟨crates, hget⟩ := Disk.exists_entries_of_isDir hdir
      obtain ⟨crates', hget', hcrates⟩ := hsame.get_dir hget
      have hnamed := Disk.named_of_get h hget
      have hnamed' := Disk.named_of_get h' hget'
      rw [load, load, hget, hget']
      dsimp only
      rw [e.manifestItems_of_sameTexts _ hnamed hnamed' hcrates,
        e.sourceItems_of_sameTexts _ hnamed hnamed' hcrates]

end CodeExtractor

/-! ## Everything that is collected -/

namespace Ingestor

theorem readIn_of_sameTexts {d d' : Disk} (h : d.SameTexts d') (dir name : String) :
    readIn d dir name = readIn d' dir name := h.toOption_readText _

theorem loadSite_of_sameTexts (i : Ingestor) {d d' : Disk} (h : d.SameTexts d') (dir : String) :
    i.loadSite d dir = i.loadSite d' dir := by
  rw [loadSite, loadSite, funext (readIn_of_sameTexts h dir)]

theorem loadDesignDocs_of_sameTexts (i : Ingestor) {d d' : Disk} (h : d.SameTexts d')
    (codeDir : String) : i.loadDesignDocs d codeDir = i.loadDesignDocs d' codeDir := by
  refine List.flatMap_congr fun doc _ => ?_
  rw [designChunks, designChunks, readIn_of_sameTexts h]

end Ingestor

namespace IndexBuilder

variable {m : Type → Type} [Monad m]

/-- **The corpus depends on directories and texts alone.** -/
theorem collect_of_sameTexts (b : IndexBuilder m) {d d' : Disk} (h : d.tree.Named)
    (h' : d'.tree.Named) (hsame : d.SameTexts d') (site : SiteSource) (codeDir : String) :
    b.collect d site codeDir = b.collect d' site codeDir := by
  have hdocs : b.collectDocs d site = b.collectDocs d' site := by
    cases site with
    | dir path => rw [collectDocs, collectDocs, hsame.isDir, b.ingestor.loadSite_of_sameTexts hsame]
    | fetch => rfl
    | skip => rfl
  have hcode : b.ingestor.loadCode d codeDir = b.ingestor.loadCode d' codeDir :=
    b.ingestor.code.load_of_sameTexts h h' hsame codeDir
  rw [collect, collect, hdocs, hcode, b.ingestor.loadDesignDocs_of_sameTexts hsame]

/--
**A file that cannot be read harms no other.** Whatever set of files is overwritten with bytes that are no
text, pages, documents, sources or manifests, the corpus is the one without these files.
-/
theorem collect_of_unreadable (b : IndexBuilder m) (d : Disk) (h : d.tree.Named)
    (which : List String → Bool) (content : List String → ByteArray)
    (hcontent : ∀ place, which place = true → String.fromUTF8? (content place) = none)
    (site : SiteSource) (codeDir : String) :
    b.collect (d.overwritten which content) site codeDir = b.collect (d.without which) site codeDir := by
  have hsame : (d.overwritten which content).SameTexts (d.without which) := by
    refine ⟨rfl, FileTree.sameTexts_changed h which fun place hwhich htext => ?_⟩
    rw [FileTree.IsText, hcontent place hwhich] at htext
    cases htext
  exact b.collect_of_sameTexts (h.changedBelow _) (h.changedBelow _) hsame site codeDir

/-- A builder with the standard settings, which is asked for no embeddings. -/
def plain : IndexBuilder Id where
  settings := {}
  embedder := ⟨"none", fun _ => return [], fun _ => return []⟩
  services := ⟨fun _ => return .error "", fun _ => return (), return ⟨0, 0⟩⟩

/-- The place of the manifest in the checkout. -/
def manifestPlace : List String := ["work", "crates", "vault", "Cargo.toml"]

theorem collect_of_unreadable_manifest : ∃ d₁ d₂ : Disk,
    CodeExtractor.checkout.write "work/crates/vault/Cargo.toml" ⟨#[0xFF]⟩ = .ok d₁ ∧
      CodeExtractor.checkout.remove "work/crates/vault/Cargo.toml" = .ok d₂ ∧
      String.fromUTF8? ⟨#[0xFF]⟩ = none ∧
      plain.collect d₁ .skip "work" = plain.collect d₂ .skip "work" ∧
      (plain.collect d₂ .skip "work").run.code.map (·.source) = ["vault/src/lib.rs"] := by
  have hwork : Path.FileName "work" := ⟨by decide, by decide, by decide, by decide⟩
  have hnamed : CodeExtractor.checkout.tree.Named :=
    ⟨by decide, ⟨hwork, by decide, ⟨CodeExtractor.fileName_cratesDir, CodeExtractor.named_vault⟩, trivial⟩,
      trivial⟩
  have hplace : CodeExtractor.checkout.place "work/crates/vault/Cargo.toml" = .ok manifestPlace := by
    decide +kernel
  have hbytes : String.fromUTF8? ⟨#[0xFF]⟩ = none := by decide +kernel
  refine ⟨CodeExtractor.checkout.overwritten (· == manifestPlace) fun _ => ⟨#[0xFF]⟩,
    CodeExtractor.checkout.without (· == manifestPlace), ?_, ?_, hbytes, ?_, ?_⟩
  · exact Disk.write_eq_overwritten hnamed hplace (by decide) rfl _
  · exact Disk.remove_eq_without hnamed hplace (by decide) rfl
  · exact plain.collect_of_unreadable _ hnamed (· == manifestPlace) (fun _ => ⟨#[0xFF]⟩)
      (fun _ _ => hbytes) .skip "work"
  · decide +kernel

end IndexBuilder

end Grounded
