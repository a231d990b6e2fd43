import Mathlib.Data.List.Nodup
import Mathlib.Data.String.Basic
import Grounded.Proofs.DiskWrite

/-!
# The walk through a tree

The files of a tree are visited depth first, the entries of each directory by name. That is the order of
their paths, taken as lists of names. So the walk can be said without walking: every file is visited that
a path leads to, once, and in the order of the paths.
-/

namespace Grounded

namespace FileTree

/-! ## Trees as a disk holds them -/

mutual

/-- The entries of every directory have different names, and all of them are file names. -/
def Named : FileTree → Prop
  | .file _ => True
  | .dir entries => (entries.map (·.1)).Nodup ∧ AllNamed entries

/-- Each of the entries has a file name and a tree with such names below. -/
def AllNamed : List (String × FileTree) → Prop
  | [] => True
  | (name, t) :: rest => (Path.FileName name ∧ t.Named) ∧ AllNamed rest

end

theorem AllNamed.of_mem {entries : List (String × FileTree)} (h : AllNamed entries) {name : String}
    {t : FileTree} (hmem : (name, t) ∈ entries) : Path.FileName name ∧ t.Named := by
  induction entries with
  | nil => cases hmem
  | cons entry entries ih =>
      rcases List.mem_cons.mp hmem with rfl | hmem
      · exact h.1
      · exact ih h.2 hmem

theorem child?_eq_some_iff {entries : List (String × FileTree)} (h : (entries.map (·.1)).Nodup)
    {name : String} {t : FileTree} : (dir entries).child? name = some t ↔ (name, t) ∈ entries := by
  induction entries with
  | nil => simp [child?]
  | cons entry entries ih =>
      obtain ⟨first, tree⟩ := entry
      obtain ⟨hnew, hrest⟩ := List.nodup_cons.mp h
      have hchild := ih hrest
      rw [child?] at hchild ⊢
      by_cases hname : first = name
      · subst hname
        have hother : (first, t) ∉ entries := fun hmem =>
          hnew (List.mem_map_of_mem (f := (·.1)) hmem)
        simp [hother, eq_comm]
      · have hne : (first == name) = false := beq_eq_false_iff_ne.mpr hname
        simp only [List.find?_cons, hne, hchild, List.mem_cons, Prod.mk.injEq, Ne.symm hname,
          false_and, false_or]

theorem Named.of_child? {t below : FileTree} (h : t.Named) {name : String}
    (hchild : t.child? name = some below) : Path.FileName name ∧ below.Named := by
  cases t with
  | file content => cases hchild
  | dir entries => exact h.2.of_mem ((child?_eq_some_iff h.1).mp hchild)

/-! ## Every file, in order -/

theorem mem_entryFiles {entries : List (String × FileTree)} {name : String}
    {files : List (List String × ByteArray)} :
    (name, files) ∈ entryFiles entries ↔
      ∃ t, (name, t) ∈ entries ∧ files = t.files.map (Prod.map (name :: ·) id) := by
  induction entries with
  | nil => simp [entryFiles]
  | cons entry entries ih =>
      obtain ⟨first, tree⟩ := entry
      rw [entryFiles, List.mem_cons, ih]
      constructor
      · rintro (h | ⟨t, ht, rfl⟩)
        · obtain ⟨rfl, rfl⟩ := Prod.mk.inj h
          exact ⟨tree, List.mem_cons_self, rfl⟩
        · exact ⟨t, List.mem_cons_of_mem _ ht, rfl⟩
      · rintro ⟨t, ht, rfl⟩
        rcases List.mem_cons.mp ht with h | ht
        · obtain ⟨rfl, rfl⟩ := Prod.mk.inj h
          exact .inl rfl
        · exact .inr ⟨t, ht, rfl⟩

theorem mem_files_dir {entries : List (String × FileTree)} {names : List String} {content : ByteArray} :
    (names, content) ∈ (dir entries).files ↔
      ∃ name t below, (name, t) ∈ entries ∧ (below, content) ∈ t.files ∧ names = name :: below := by
  rw [files, List.mem_flatMap]
  constructor
  · rintro ⟨⟨name, list⟩, hlist, hmem⟩
    rw [byName, List.mem_mergeSort, mem_entryFiles] at hlist
    obtain ⟨t, ht, rfl⟩ := hlist
    obtain ⟨⟨below, content'⟩, hbelow, heq⟩ := List.mem_map.mp hmem
    obtain ⟨rfl, rfl⟩ := Prod.mk.inj heq
    exact ⟨name, t, below, ht, hbelow, rfl⟩
  · rintro ⟨name, t, below, ht, hbelow, rfl⟩
    refine ⟨(name, t.files.map (Prod.map (name :: ·) id)), ?_, ?_⟩
    · rw [byName, List.mem_mergeSort, mem_entryFiles]
      exact ⟨t, ht, rfl⟩
    · exact List.mem_map.mpr ⟨(below, content), hbelow, rfl⟩

/-- **A file is visited if and only if its path leads to it.** -/
theorem mem_files {t : FileTree} (h : t.Named) {names : List String} {content : ByteArray} :
    (names, content) ∈ t.files ↔ t.at? names = some (.file content) := by
  induction names generalizing t with
  | nil =>
      cases t with
      | file c => simp [files, at?, eq_comm]
      | dir entries => simp [mem_files_dir, at?]
  | cons name names ih =>
      cases t with
      | file c => simp [files, at?, child?]
      | dir entries =>
          rw [mem_files_dir, at?, Option.bind_eq_some_iff]
          constructor
          · rintro ⟨_, t, _, ht, hbelow, heq⟩
            obtain ⟨rfl, rfl⟩ := List.cons.inj heq
            exact ⟨t, (child?_eq_some_iff h.1).mpr ht, (ih (h.2.of_mem ht).2).mp hbelow⟩
          · rintro ⟨t, ht, hbelow⟩
            rw [child?_eq_some_iff h.1] at ht
            exact ⟨name, t, names, ht, (ih (h.2.of_mem ht).2).mpr hbelow, rfl⟩

theorem nodup_entryFiles {entries : List (String × FileTree)} (h : (entries.map (·.1)).Nodup) :
    ((entryFiles entries).map (·.1)).Nodup := by
  have hnames : (entryFiles entries).map (·.1) = entries.map (·.1) := by
    clear h
    induction entries with
    | nil => rfl
    | cons entry entries ih => rw [entryFiles, List.map_cons, List.map_cons, ih]
  rw [hnames]
  exact h

/-- Things of different names are put into the strict order of their names. -/
theorem pairwise_mergeSort_key {α : Type} (key : α → String) {things : List α}
    (h : (things.map key).Nodup) :
    (things.mergeSort fun a b => !decide (key b < key a)).Pairwise fun a b => key a < key b := by
  have htrans : ∀ a b c : α, (!decide (key b < key a)) = true → (!decide (key c < key b)) = true →
      (!decide (key c < key a)) = true := by
    intro a b c hab hbc
    rw [Bool.not_eq_true', decide_eq_false_iff_not, String.not_lt] at *
    exact String.le_trans hab hbc
  have htotal : ∀ a b : α, ((!decide (key b < key a)) || !decide (key a < key b)) = true := by
    intro a b
    rw [Bool.or_eq_true, Bool.not_eq_true', Bool.not_eq_true', decide_eq_false_iff_not,
      decide_eq_false_iff_not, String.not_lt, String.not_lt]
    exact String.le_total (key a) (key b)
  have hnodup : (things.mergeSort fun a b => !decide (key b < key a)).Pairwise
      fun a b => key a ≠ key b := by
    rw [← List.pairwise_map]
    exact (((List.mergeSort_perm things _).map key).nodup_iff).mpr h
  refine ((List.pairwise_mergeSort htrans htotal things).and hnodup).imp ?_
  rintro a b ⟨hle, hne⟩
  rw [Bool.not_eq_true', decide_eq_false_iff_not, String.not_lt] at hle
  exact lt_of_le_of_ne hle hne

theorem pairwise_byName {α : Type} {entries : List (String × α)} (h : (entries.map (·.1)).Nodup) :
    (byName entries).Pairwise fun a b => a.1 < b.1 := pairwise_mergeSort_key Prod.fst h

/-- **The files are visited in the order of their paths.** -/
theorem pairwise_files (t : FileTree) (h : t.Named) : t.files.Pairwise fun a b => a.1 < b.1 := by
  match t with
  | .file content => exact List.pairwise_singleton _ _
  | .dir entries =>
    rw [files, List.pairwise_flatMap]
    constructor
    · rintro ⟨name, list⟩ hlist
      rw [byName, List.mem_mergeSort, mem_entryFiles] at hlist
      obtain ⟨t, ht, rfl⟩ := hlist
      rw [List.pairwise_map]
      refine (t.pairwise_files (h.2.of_mem ht).2).imp ?_
      intro a b hab
      exact List.cons_lt_cons_iff.mpr (.inr ⟨rfl, hab⟩)
    · -- the first names differ, and they decide
      refine (pairwise_byName (nodup_entryFiles h.1)).imp_of_mem ?_
      rintro ⟨name, list⟩ ⟨name', list'⟩ hlist hlist' hlt x hx y hy
      rw [byName, List.mem_mergeSort, mem_entryFiles] at hlist hlist'
      obtain ⟨t, _, rfl⟩ := hlist
      obtain ⟨t', _, rfl⟩ := hlist'
      obtain ⟨a, _, rfl⟩ := List.mem_map.mp hx
      obtain ⟨b, _, rfl⟩ := List.mem_map.mp hy
      exact List.cons_lt_cons_iff.mpr (.inl hlt)
termination_by sizeOf t
decreasing_by
  have := List.sizeOf_lt_of_mem ht
  simp only [FileTree.dir.sizeOf_spec, Prod.mk.sizeOf_spec] at this ⊢
  omega

/-- A path that leads to anything is made of file names. -/
theorem Named.fileName_of_at? {t below : FileTree} (h : t.Named) {names : List String}
    (hat : t.at? names = some below) : ∀ name ∈ names, Path.FileName name := by
  induction names generalizing t with
  | nil => exact fun name hname => absurd hname List.not_mem_nil
  | cons first names ih =>
      obtain ⟨next, hnext, hbelow⟩ := Option.bind_eq_some_iff.mp hat
      obtain ⟨hfirst, hrest⟩ := h.of_child? hnext
      exact List.forall_mem_cons.mpr ⟨hfirst, ih hrest hbelow⟩

/-- A file below a directory has a name. -/
theorem Named.names_of_file {entries : List (String × FileTree)} (h : (dir entries).Named)
    {names : List String} {content : ByteArray} (hat : (dir entries).at? names = some (.file content)) :
    names ≠ [] ∧ ∀ name ∈ names, Path.FileName name := by
  refine ⟨?_, h.fileName_of_at? hat⟩
  rintro rfl
  cases hat

end FileTree

end Grounded
