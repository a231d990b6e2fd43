import Grounded.Proofs.TreeWalk
import Grounded.Source.CodeTree

/-!
# Labels of source files

The path of a source file is that of the project, then the directory of crates, then the names that lead
on from there. The label of the file is cut off at the last directory of crates, so the part above has no
influence on it. The domain of a file goes by the whole path, and there the part above counts.
-/

namespace Grounded

namespace Text

/-! ## Occurrences -/

/-- Behind more text, the last occurrence is still the last. -/
theorem afterLast_append {needle s rest : List Char} (h : afterLast needle s = some rest)
    (before : List Char) : afterLast needle (before ++ s) = some rest := by
  induction before with
  | nil => exact h
  | cons c before ih => rw [List.cons_append, afterLast, ih]

theorem exists_afterLast (needle s : List Char) : ∃ rest, afterLast needle (needle ++ s) = some rest := by
  cases h : needle ++ s with
  | nil =>
      rw [(List.append_eq_nil_iff.mp h).1]
      exact ⟨[], rfl⟩
  | cons c t =>
      have hprefix : needle.isPrefixOf (c :: t) = true := by
        rw [← h, List.isPrefixOf_iff_prefix]
        exact List.prefix_append needle s
      rw [afterLast]
      cases afterLast needle t with
      | some rest => exact ⟨rest, rfl⟩
      | none => exact ⟨_, if_pos hprefix⟩

/-- **The cut is at the last occurrence:** no other one begins later. -/
theorem of_afterLast {needle s rest : List Char} (h : afterLast needle s = some rest) :
    ∃ before, s = before ++ (needle ++ rest) ∧
      ∀ other after, s = other ++ (needle ++ after) → other.length ≤ before.length := by
  induction s generalizing rest with
  | nil =>
      rw [afterLast] at h
      split at h
      · rename_i hempty
        refine ⟨[], ?_, ?_⟩
        · rw [List.isEmpty_iff.mp hempty, ← Option.some.inj h, List.append_nil, List.append_nil]
        · intro other after heq
          rw [(List.append_eq_nil_iff.mp heq.symm).1]
      · cases h
  | cons c s ih =>
      rw [afterLast] at h
      cases hlater : afterLast needle s with
      | some later =>
          rw [hlater] at h
          obtain ⟨before, hs, hlast⟩ := ih hlater
          refine ⟨c :: before, ?_, ?_⟩
          · rw [← Option.some.inj h, List.cons_append, ← hs]
          · intro other after heq
            cases other with
            | nil => exact Nat.zero_le _
            | cons d other => exact Nat.succ_le_succ (hlast other after (List.cons.inj heq).2)
      | none =>
          rw [hlater] at h
          dsimp only at h
          split at h
          · rename_i hprefix
            obtain ⟨t, ht⟩ := List.isPrefixOf_iff_prefix.mp hprefix
            refine ⟨[], ?_, ?_⟩
            · rw [← Option.some.inj h, ← ht, List.drop_left, List.nil_append]
            · intro other after heq
              cases other with
              | nil => exact Nat.le_refl _
              | cons d other =>
                  -- an occurrence further on would have been found
                  obtain ⟨found, hfound⟩ := exists_afterLast needle after
                  have hs : s = other ++ (needle ++ after) := (List.cons.inj heq).2
                  rw [hs, afterLast_append hfound] at hlater
                  cases hlater
          · cases h

end Text

namespace Path

/-! ## Paths into a directory -/

theorem getLast?_fileName {name : String} (h : FileName name) : name.toList.getLast? ≠ some '/' :=
  fun hlast => h.noSlash (List.mem_of_getLast? hlast)

/-- What leads on from a directory: a slash before each of the names. -/
def onward (names : List String) : List Char := names.flatMap fun name => '/' :: name.toList

theorem foldl_join {names : List String} (h : ∀ name ∈ names, FileName name) {dir : String}
    (hne : dir ≠ "") (hlast : dir.toList.getLast? ≠ some '/') :
    (names.foldl join dir).toList = dir.toList ++ onward names := by
  induction names generalizing dir with
  | nil => exact (List.append_nil _).symm
  | cons name names ih =>
      obtain ⟨hname, hrest⟩ := List.forall_mem_cons.mp h
      have hjoin : (join dir name).toList = dir.toList ++ '/' :: name.toList :=
        Disk.join_of_plain name (isAbsolute_fileName hname) hne hlast
      have hjoinLast : (join dir name).toList.getLast? ≠ some '/' := by
        rw [hjoin, List.getLast?_append_of_ne_nil _ (List.cons_ne_nil _ _), List.getLast?_cons_of_ne_nil]
        · exact getLast?_fileName hname
        · exact hname.nonempty
      have hjoinNe : join dir name ≠ "" := by
        intro hempty
        rw [hempty] at hjoin
        exact absurd hjoin.symm (List.append_ne_nil_of_right_ne_nil _ (List.cons_ne_nil _ _))
      have honward : onward (name :: names) = '/' :: name.toList ++ onward names := List.flatMap_cons
      rw [List.foldl_cons, ih hrest hjoinNe hjoinLast, hjoin, honward, List.append_assoc]

end Path

namespace CodeExtractor

open Text

/-! ## The path of a source file -/

/-- The slash that a path shows for a character. -/
def slashed (c : Char) : Char := if c == '\\' then '/' else c

theorem toList_forwardSlashes (path : String) :
    (DomainTable.forwardSlashes path).toList = path.toList.map slashed := String.toList_ofList

/-- What the label of a file follows. -/
def cratesMark : List Char := (cratesDir ++ "/").toList

/-- What stands in a path above the directory of crates. -/
def above (codeDir : String) : List Char :=
  if codeDir.isEmpty then []
  else if codeDir.toList.getLast? == some '/' then codeDir.toList
  else codeDir.toList ++ ['/']

theorem fileName_cratesDir : Path.FileName cratesDir := ⟨by decide, by decide, by decide, by decide⟩

theorem toList_join_cratesDir (codeDir : String) :
    (Path.join codeDir cratesDir).toList = above codeDir ++ cratesDir.toList := by
  rw [Path.join, Path.isAbsolute_fileName fileName_cratesDir, Bool.false_or, above]
  split
  · rfl
  · split
    · exact String.toList_append
    · rw [String.toList_append, String.toList_append]
      rfl

/-- A path into the directory of crates is the part above, which only depends on the project, and the rest. -/
theorem toList_pathBelow (codeDir : String) {names : List String}
    (h : ∀ name ∈ names, Path.FileName name) :
    (pathBelow (Path.join codeDir cratesDir) names).toList
      = (above codeDir).map slashed ++ (cratesDir.toList ++ Path.onward names).map slashed := by
  have hlast : (Path.join codeDir cratesDir).toList.getLast? ≠ some '/' := by
    rw [toList_join_cratesDir, List.getLast?_append_of_ne_nil _ (by decide)]
    decide
  have hne : Path.join codeDir cratesDir ≠ "" := by
    intro hempty
    have hjoin := toList_join_cratesDir codeDir
    rw [hempty] at hjoin
    exact absurd hjoin.symm (List.append_ne_nil_of_right_ne_nil _ (by decide))
  rw [pathBelow, toList_forwardSlashes, Path.foldl_join h hne hlast, toList_join_cratesDir,
    List.append_assoc, List.map_append]

/-- Below the directory of crates a path goes on behind the mark. -/
theorem exists_mark {names : List String} (h : names ≠ []) :
    ∃ rest, (cratesDir.toList ++ Path.onward names).map slashed = cratesMark ++ rest := by
  obtain ⟨name, names, rfl⟩ := List.exists_cons_of_ne_nil h
  exact ⟨(name.toList ++ Path.onward names).map slashed, rfl⟩

/-! ## Labels -/

/-- The label is what follows the last directory of crates in the path of the file. -/
def Labels (file label : String) : Prop :=
  ∃ before, file.toList = before ++ (cratesMark ++ label.toList) ∧
    ∀ other after, file.toList = other ++ (cratesMark ++ after) → other.length ≤ before.length

theorem sourceLabel_of_afterLast {file : String} {rest : List Char}
    (h : afterLast cratesMark file.toList = some rest) : sourceLabel file = String.ofList rest := by
  rw [sourceLabel, ← cratesMark, h]

/-- **The label of a file below the directory of crates,** wherever the project is. -/
theorem exists_sourceLabel {names : List String} (hne : names ≠ [])
    (hnames : ∀ name ∈ names, Path.FileName name) : ∃ label, ∀ codeDir : String,
      sourceLabel (pathBelow (Path.join codeDir cratesDir) names) = label ∧
      Labels (pathBelow (Path.join codeDir cratesDir) names) label := by
  obtain ⟨rest, hmark⟩ := exists_mark hne
  obtain ⟨label, hlabel⟩ := exists_afterLast cratesMark rest
  refine ⟨String.ofList label, ?_⟩
  intro codeDir
  have hlast : afterLast cratesMark (pathBelow (Path.join codeDir cratesDir) names).toList = some label := by
    rw [toList_pathBelow codeDir hnames, hmark]
    exact afterLast_append hlabel _
  refine ⟨sourceLabel_of_afterLast hlast, ?_⟩
  rw [Labels, String.toList_ofList]
  exact of_afterLast hlast

end CodeExtractor

end Grounded
