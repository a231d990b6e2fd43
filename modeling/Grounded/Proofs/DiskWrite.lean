import Grounded.Files.Disk
import Grounded.Proofs.TextLines
import Grounded.Proofs.TreePut

/-!
# What a write leaves behind

A path to a file in a directory goes by way of the directory, however the path of the directory is
written. So it is enough to know where that path leads: `LeadsTo` says this of a path and the place of a
directory. A write into the directory keeps it, puts the file, and leaves all other files of the
directory as they were, so that several files can be written one after the other and each read back.
-/

namespace Grounded

namespace Path

open Text

/-- A file name: neither empty nor a step of a path. -/
structure FileName (name : String) : Prop where
  nonempty : name.toList ≠ []
  noSlash : '/' ∉ name.toList
  notHere : name ≠ "."
  notAbove : name ≠ ".."

/-- The parts of a path without the one that stands for a slash at its end. -/
def named (s : List Char) : List String :=
  ((splitOn '/' s).filter (!·.isEmpty)).map String.ofList

/-- A last piece that is empty comes from a slash at the end. -/
theorem getLast?_splitOn {s : List Char} (h : s.getLast? ≠ some '/') (hne : s ≠ []) :
    (splitOn '/' s).getLast? ≠ some [] := by
  induction s with
  | nil => exact absurd rfl hne
  | cons c s ih =>
      rw [splitOn]
      -- without anything behind it, the character is the last piece
      by_cases hs : s = []
      · subst hs
        have hc : (c == '/') = false := by
          rw [beq_eq_false_iff_ne]
          intro he
          exact h (by rw [he]; rfl)
        rw [hc]
        simp [splitOn]
      · have hlast := ih (by rwa [List.getLast?_cons_of_ne_nil hs] at h) hs
        split
        · rwa [List.getLast?_cons_of_ne_nil (splitOn_ne_nil '/' s)]
        · cases hp : splitOn '/' s with
          | nil => exact absurd hp (splitOn_ne_nil '/' s)
          | cons part parts =>
              rw [hp] at hlast
              cases parts with
              | nil => simp
              | cons next parts =>
                  dsimp only
                  rw [List.getLast?_cons_cons] at hlast ⊢
                  exact hlast

theorem parts_eq (path : String) : parts path =
    if !(named path.toList).isEmpty && (splitOn '/' path.toList).getLast? == some []
    then named path.toList ++ ["."] else named path.toList := rfl

theorem named_fileName {name : String} (h : FileName name) : named name.toList = [name] := by
  have hne : (!name.toList.isEmpty) = true := by
    rw [Bool.not_eq_true', List.isEmpty_eq_false_iff]
    exact h.nonempty
  have hfilter : [name.toList].filter (fun x : List Char => !x.isEmpty) = [name.toList] :=
    List.filter_cons_of_pos hne
  rw [named, splitOn_of_not_mem h.noSlash, hfilter, List.map_cons, List.map_nil,
    String.ofList_toList]

theorem named_append (s t : List Char) : named (s ++ '/' :: t) = named s ++ named t := by
  rw [named, splitOn_append, List.filter_append, List.map_append]
  rfl

/-- A name does not end in a slash. -/
theorem getLast?_splitOn_fileName {name : String} (h : FileName name) (s : List (List Char)) :
    ((s ++ splitOn '/' name.toList).getLast? == some []) = false := by
  rw [splitOn_of_not_mem h.noSlash, List.getLast?_append, beq_eq_false_iff_ne]
  intro he
  exact h.nonempty (Option.some.inj he)

/-- The parts of a path to a file in a directory, whether or not the directory ends in a slash. -/
theorem parts_snoc {path : String} {s : List Char} {name : String} (h : FileName name)
    (hp : path.toList = s ++ '/' :: name.toList) : parts path = named s ++ [name] := by
  rw [parts_eq, hp, splitOn_append, getLast?_splitOn_fileName h, Bool.and_false,
    if_neg (by decide), named_append, named_fileName h]

theorem parts_fileName {name : String} (h : FileName name) : parts name = [name] := by
  have hlast := getLast?_splitOn_fileName h []
  rw [List.nil_append] at hlast
  rw [parts_eq, hlast, Bool.and_false, if_neg (by decide), named_fileName h]

theorem isAbsolute_append {path base : String} {rest : List Char}
    (h : path.toList = base.toList ++ rest) (hne : base ≠ "") :
    isAbsolute path = isAbsolute base := by
  rw [isAbsolute, isAbsolute, h]
  cases hb : base.toList with
  | nil => exact absurd (String.toList_inj.mp hb) hne
  | cons c s => rfl

theorem isAbsolute_fileName {name : String} (h : FileName name) : isAbsolute name = false := by
  rw [isAbsolute, beq_eq_false_iff_ne]
  intro he
  exact h.noSlash (List.mem_of_mem_head? he)

end Path

namespace Disk

open Grounded.Path Text

/-! ## Paths into a directory -/

/-- Where following a path starts. -/
def start (d : Disk) (path : String) : List String := if isAbsolute path then [] else d.cwd

theorem follow_append (tree : FileTree) (place p q : List String) :
    follow tree place (p ++ q) = (follow tree place p).bind (follow tree · q) := by
  induction p generalizing place with
  | nil => rfl
  | cons part p ih =>
      rw [List.cons_append, follow, follow]
      split
      · rfl
      · rfl
      · exact ih _

theorem follow_one (tree : FileTree) (place : List String) (part : String) :
    follow tree place [part] = match tree.at? place with
      | none => .error .notFound
      | some (.file _) => .error .notADirectory
      | some (.dir _) => .ok (step place part) := by
  rw [follow]
  cases tree.at? place with
  | none => rfl
  | some t =>
      cases t with
      | file content => rfl
      | dir entries => rfl

/-- A step to where one is needs a directory there, as every other step does. -/
theorem follow_here_append (tree : FileTree) (place p : List String) (name : String) :
    (follow tree place (p ++ ["."])).bind (follow tree · [name])
      = (follow tree place p).bind (follow tree · [name]) := by
  rw [follow_append]
  cases follow tree place p with
  | error e => rfl
  | ok place =>
      have hstep : step place "." = place := if_pos (by decide)
      simp only [Except.bind, follow_one tree place]
      cases hp : tree.at? place with
      | none => rfl
      | some t =>
          cases t with
          | file content => rfl
          | dir entries =>
              dsimp only
              rw [hstep, follow_one, hp]

theorem join_empty (name : String) : join "" name = name := by
  simp [join]

theorem join_of_trailing {dir : String} {s : List Char} (name : String)
    (hname : isAbsolute name = false) (hd : dir.toList = s ++ ['/']) :
    (join dir name).toList = s ++ '/' :: name.toList := by
  have hne : dir.isEmpty = false := by
    rw [Bool.eq_false_iff, ne_eq, String.isEmpty_iff]
    rintro rfl
    exact absurd hd.symm (List.append_ne_nil_of_right_ne_nil s (List.cons_ne_nil _ _))
  have hlast : (dir.toList.getLast? == some '/') = true := by
    rw [hd, List.getLast?_append]
    rfl
  rw [join, hname, hne, hlast, Bool.or_false, if_neg (by decide), if_pos rfl, String.toList_append,
    hd, List.append_assoc]
  rfl

theorem join_of_plain {dir : String} (name : String) (hname : isAbsolute name = false)
    (hne : dir ≠ "") (hd : dir.toList.getLast? ≠ some '/') :
    (join dir name).toList = dir.toList ++ '/' :: name.toList := by
  have hempty : dir.isEmpty = false := by
    rw [Bool.eq_false_iff, ne_eq, String.isEmpty_iff]
    exact hne
  have hlast : (dir.toList.getLast? == some '/') = false := beq_eq_false_iff_ne.mpr hd
  rw [join, hname, hempty, hlast, Bool.or_false, if_neg (by decide), if_neg (by decide),
    String.toList_append, String.toList_append, List.append_assoc]
  rfl

/-- **A path to a file in a directory goes by way of the directory.** -/
theorem follow_join (tree : FileTree) (place : List String) (dir : String) {name : String}
    (h : FileName name) : follow tree place (parts (join dir name))
      = (follow tree place (parts dir)).bind (follow tree · [name]) := by
  have hname := isAbsolute_fileName h
  by_cases hdir : dir = ""
  · -- the current directory has no parts
    subst hdir
    rw [join_empty, parts_fileName h]
    rfl
  · by_cases hslash : dir.toList.getLast? = some '/'
    · obtain ⟨s, hs⟩ := List.getLast?_eq_some_iff.mp hslash
      rw [parts_snoc h (join_of_trailing name hname hs)]
      have hnamed : named dir.toList = named s := by
        rw [hs, named_append]
        exact List.append_nil _
      have hlast : ((splitOn '/' dir.toList).getLast? == some []) = true := by
        rw [hs, splitOn_append, List.getLast?_append]
        rfl
      rw [parts_eq dir, hlast, hnamed, Bool.and_true]
      -- the slash counts as a step to where one is, if any part comes before it
      split
      · rw [follow_here_append, follow_append]
      · rw [follow_append]
    · have hlast : ((splitOn '/' dir.toList).getLast? == some []) = false := by
        rw [beq_eq_false_iff_ne]
        exact getLast?_splitOn hslash (fun he => hdir (String.toList_inj.mp he))
      rw [parts_snoc h (join_of_plain name hname hdir hslash), follow_append, parts_eq dir, hlast,
        Bool.and_false, if_neg (by decide)]

/-- A path into a directory starts where the directory does. -/
theorem start_join (d : Disk) (dir : String) {name : String} (h : FileName name) :
    d.start (join dir name) = d.start dir ∧ (join dir name).isEmpty = false := by
  have hname := isAbsolute_fileName h
  have hnonempty : ∀ path : String, path.toList ≠ [] → path.isEmpty = false := by
    intro path hp
    rw [Bool.eq_false_iff, ne_eq, String.isEmpty_iff]
    rintro rfl
    exact hp rfl
  by_cases hdir : dir = ""
  · subst hdir
    rw [join_empty, start, start, hname]
    exact ⟨rfl, hnonempty name h.nonempty⟩
  · obtain ⟨rest, hrest, hne⟩ : ∃ rest, (join dir name).toList = dir.toList ++ rest ∧ rest ≠ [] := by
      by_cases hslash : dir.toList.getLast? = some '/'
      · obtain ⟨s, hs⟩ := List.getLast?_eq_some_iff.mp hslash
        refine ⟨name.toList, ?_, h.nonempty⟩
        rw [join_of_trailing name hname hs, hs, List.append_assoc]
        rfl
      · exact ⟨_, join_of_plain name hname hdir hslash, List.cons_ne_nil _ _⟩
    rw [start, start, isAbsolute_append hrest hdir]
    refine ⟨rfl, hnonempty _ ?_⟩
    rw [hrest]
    exact List.append_ne_nil_of_right_ne_nil _ hne

theorem place_join (d : Disk) (dir : String) {name : String} (h : FileName name) :
    d.place (join dir name)
      = (follow d.tree (d.start dir) (parts dir)).bind (follow d.tree · [name]) := by
  obtain ⟨hstart, hempty⟩ := start_join d dir h
  rw [place, hempty, if_neg (by decide), ← start, hstart, follow_join d.tree _ dir h]

/-! ## Directories and their files -/

/-- The path leads to the directory at the place. -/
structure LeadsTo (d : Disk) (dir : String) (place : List String) : Prop where
  follows : follow d.tree (d.start dir) (parts dir) = .ok place
  isDir : d.tree.DirAt place

/-- The place of a file in a directory. -/
theorem LeadsTo.place_join {d : Disk} {dir : String} {place : List String}
    (hd : d.LeadsTo dir place) {name : String} (h : FileName name) :
    d.place (join dir name) = .ok (place ++ [name]) := by
  obtain ⟨entries, he⟩ := hd.isDir
  have hstep : step place name = place ++ [name] := by
    rw [step, if_neg (by simp [h.notHere]), if_neg (by simp [h.notAbove])]
  rw [Disk.place_join d dir h, hd.follows]
  simp only [Except.bind, follow_one, he, hstep]

theorem leadsTo_of_place_join {d : Disk} {dir name : String} {q : List String} (h : FileName name)
    (hq : d.place (join dir name) = .ok q) : ∃ place, d.LeadsTo dir place ∧ q = place ++ [name] := by
  -- the last step down is made from a directory only
  rw [Disk.place_join d dir h] at hq
  cases hf : follow d.tree (d.start dir) (parts dir) with
  | error e => rw [hf] at hq; cases hq
  | ok place =>
      rw [hf] at hq
      simp only [Except.bind, follow_one] at hq
      cases hp : d.tree.at? place with
      | none => rw [hp] at hq; cases hq
      | some t =>
          cases t with
          | file content => rw [hp] at hq; cases hq
          | dir entries =>
              have hstep : step place name = place ++ [name] := by
                rw [step, if_neg (by simp [h.notHere]), if_neg (by simp [h.notAbove])]
              rw [hp] at hq
              injection hq with hq
              exact ⟨place, ⟨hf, entries, hp⟩, by rw [← hq, hstep]⟩

/-- **What a write into a directory does:** it fails on a directory and puts the file otherwise. -/
theorem LeadsTo.write_join {d : Disk} {dir : String} {place : List String}
    (hd : d.LeadsTo dir place) {name : String} (h : FileName name)
    (hfree : d.tree.NoDirAt (place ++ [name])) (content : ByteArray) :
    d.write (join dir name) content
      = .ok { d with tree := d.tree.put (place ++ [name]) (.file content) } := by
  obtain ⟨entries, he⟩ := hd.isDir
  rw [write, hd.place_join h]
  simp only [bind, Except.bind]
  cases ht : d.tree.at? (place ++ [name]) with
  | none =>
      rw [List.dropLast_concat, he]
  | some t =>
      cases t with
      | file old => rfl
      | dir es => exact absurd ht (hfree es)

/-- What is written was no directory. -/
theorem isDir_of_write {d d' : Disk} {path : String} {content : ByteArray}
    (h : d.write path content = .ok d') : d.isDir path = false := by
  rw [write] at h
  rw [isDir, get]
  cases hp : d.place path with
  | error e => rfl
  | ok place =>
      rw [hp] at h
      simp only [bind, Except.bind] at h ⊢
      cases ht : d.tree.at? place with
      | none => rfl
      | some t =>
          cases t with
          | file old => rfl
          | dir entries => rw [ht] at h; cases h

theorem of_write_join {d d' : Disk} {dir name : String} {content : ByteArray} (h : FileName name)
    (hw : d.write (join dir name) content = .ok d') :
    ∃ place, d.LeadsTo dir place ∧ d.tree.NoDirAt (place ++ [name]) ∧
      d' = { d with tree := d.tree.put (place ++ [name]) (.file content) } := by
  cases hq : d.place (join dir name) with
  | error e => rw [write, hq] at hw; cases hw
  | ok q =>
      obtain ⟨place, hd, rfl⟩ := leadsTo_of_place_join h hq
      have hfree : d.tree.NoDirAt (place ++ [name]) := by
        intro entries he
        rw [write, hq] at hw
        simp only [bind, Except.bind, he] at hw
        cases hw
      rw [hd.write_join h hfree] at hw
      injection hw with hw
      exact ⟨place, hd, hfree, hw.symm⟩

/-- What is at a path into a directory. -/
theorem LeadsTo.get_join {d : Disk} {dir : String} {place : List String}
    (hd : d.LeadsTo dir place) {name : String} (h : FileName name) :
    d.get (join dir name) = match d.tree.at? (place ++ [name]) with
      | some t => .ok t
      | none => .error .notFound := by
  rw [get, hd.place_join h]
  rfl

/-- A path still leads where it led if no directory was lost. -/
theorem follow_mono {tree tree' : FileTree} (hmono : ∀ p, tree.DirAt p → tree'.DirAt p)
    {place q : List String} {parts : List String} (h : follow tree place parts = .ok q) :
    follow tree' place parts = .ok q := by
  induction parts generalizing place with
  | nil => exact h
  | cons part parts ih =>
      rw [follow] at h ⊢
      cases hp : tree.at? place with
      | none => rw [hp] at h; cases h
      | some t =>
          cases t with
          | file content => rw [hp] at h; cases h
          | dir entries =>
              rw [hp] at h
              obtain ⟨entries', he⟩ := hmono place ⟨entries, hp⟩
              rw [he]
              exact ih h

theorem LeadsTo.mono {d : Disk} {tree : FileTree} {dir : String} {place : List String}
    (hd : d.LeadsTo dir place) (hmono : ∀ p, d.tree.DirAt p → tree.DirAt p) :
    LeadsTo { d with tree := tree } dir place :=
  ⟨follow_mono hmono hd.follows, hmono place hd.isDir⟩

/--
**After a write into a directory:** the path of the directory leads where it led, the file has the new
content, and every other path into the directory shows what it showed.
-/
theorem LeadsTo.after_write {d d' : Disk} {dir : String} {place : List String}
    (hd : d.LeadsTo dir place) {name : String} (h : FileName name) {content : ByteArray}
    (hw : d.write (join dir name) content = .ok d') :
    d'.LeadsTo dir place ∧ d'.get (join dir name) = .ok (.file content) ∧
      ∀ other, FileName other → name ≠ other → d'.get (join dir other) = d.get (join dir other) := by
  obtain ⟨place', hd', hfree, rfl⟩ := of_write_join h hw
  -- a path leads to one place
  have hplace : place' = place := by
    have hf := hd'.follows
    rw [hd.follows] at hf
    injection hf with hf
    exact hf.symm
  subst hplace
  have hleads := hd.mono (fun p hp => FileTree.dirAt_put hp hfree (.file content))
  refine ⟨hleads, ?_, ?_⟩
  · rw [hleads.get_join h, FileTree.at?_put_self hd.isDir]
  · intro other hother hne
    rw [hleads.get_join hother, hd.get_join hother, FileTree.at?_put_sibling hd.isDir hne]

/-- **A file can be written wherever there is no directory,** which changes this for no other file. -/
theorem LeadsTo.write_of_free {d : Disk} {dir : String} {place : List String}
    (hd : d.LeadsTo dir place) {name : String} (h : FileName name)
    (hfree : d.isDir (join dir name) = false) (content : ByteArray) :
    ∃ d', d.write (join dir name) content = .ok d' ∧ d'.LeadsTo dir place ∧
      ∀ other, FileName other → name ≠ other → d'.isDir (join dir other) = d.isDir (join dir other) := by
  have hnodir : d.tree.NoDirAt (place ++ [name]) := by
    intro entries he
    rw [Disk.isDir, hd.get_join h, he] at hfree
    cases hfree
  have hw := hd.write_join h hnodir content
  obtain ⟨hd', _, hkept⟩ := hd.after_write h hw
  refine ⟨_, hw, hd', ?_⟩
  intro other hother hne
  rw [Disk.isDir, Disk.isDir, hkept other hother hne]

end Disk

end Grounded
