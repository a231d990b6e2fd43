import Grounded.Proofs.DiskWrite

/-!
# Directories that are created

A directory is created together with those above it that are missing. Afterwards its path leads to it,
and no other directory is lost. As long as the path has no step upward, only places on the way to the
directory become directories. With a step upward this fails: a path may go down into a place of the
directory itself and up again.
-/

namespace Grounded

namespace Disk

open Grounded.Path

/-! ## Creating directories -/

/-- The current directory is a directory. -/
def Rooted (d : Disk) : Prop := d.tree.DirAt d.cwd

/-- There is something at the place, or a directory right above it. -/
def Creatable (tree : FileTree) (place : List String) : Prop :=
  (∃ t, tree.at? place = some t) ∨
    ∃ above name, place = above ++ [name] ∧ tree.DirAt above ∧ tree.at? place = none

theorem creatable_step {tree : FileTree} {place : List String} (h : tree.DirAt place)
    (part : String) : Creatable tree (step place part) := by
  unfold step
  split
  · obtain ⟨entries, he⟩ := h
    exact Or.inl ⟨_, he⟩
  · split
    -- one step upward is the directory that holds this one
    · have hwithin : place.dropLast ++ place.drop (place.length - 1) = place := by
        rw [List.dropLast_eq_take, List.take_append_drop]
      rw [← hwithin] at h
      obtain ⟨entries, he⟩ := FileTree.dirAt_of_append h
      exact Or.inl ⟨_, he⟩
    · cases hp : tree.at? (place ++ [part]) with
      | some t => exact Or.inl ⟨t, hp⟩
      | none => exact Or.inr ⟨place, part, rfl, h, hp⟩

/-- The tree in which a missing directory has been made. -/
theorem dirAt_put_empty {tree : FileTree} {place : List String} (h : Creatable tree place)
    (hnone : tree.at? place = none) : (tree.put place .empty).DirAt place ∧
      ∀ p, tree.DirAt p → (tree.put place .empty).DirAt p := by
  rcases h with ⟨t, ht⟩ | ⟨above, name, rfl, ha, _⟩
  · rw [hnone] at ht
    cases ht
  · refine ⟨⟨[], FileTree.at?_put_self ha name _⟩, fun p hp => FileTree.dirAt_put hp ?_ _⟩
    intro entries he
    rw [hnone] at he
    cases he

/-- **The directories that are made lead to the last of them,** and none is lost. -/
theorem makeDirs_ok {tree tree' : FileTree} {place : List String} {parts : List String}
    (hr : Creatable tree place) (h : makeDirs tree place parts = .ok tree') :
    (∃ q, follow tree' place parts = .ok q ∧ tree'.DirAt q) ∧
      ∀ p, tree.DirAt p → tree'.DirAt p := by
  induction parts generalizing tree place with
  | nil =>
      rw [makeDirs] at h
      cases hp : tree.at? place with
      | none =>
          rw [hp] at h
          injection h with h
          subst h
          obtain ⟨hdir, hmono⟩ := dirAt_put_empty hr hp
          exact ⟨⟨place, rfl, hdir⟩, hmono⟩
      | some t =>
          cases t with
          | file content => rw [hp] at h; cases h
          | dir entries =>
              rw [hp] at h
              injection h with h
              subst h
              exact ⟨⟨place, rfl, entries, hp⟩, fun p hp => hp⟩
  | cons part parts ih =>
      rw [makeDirs] at h
      -- once the place is a directory, what is made below it stays below it
      have hnext : ∀ {t : FileTree}, t.DirAt place → makeDirs t (step place part) parts = .ok tree' →
          (∃ q, follow tree' place (part :: parts) = .ok q ∧ tree'.DirAt q) ∧
            ∀ p, t.DirAt p → tree'.DirAt p := by
        intro t ht hm
        obtain ⟨⟨q, hf, hq⟩, hmono⟩ := ih (creatable_step ht part) hm
        obtain ⟨entries, he⟩ := hmono place ht
        refine ⟨⟨q, ?_, hq⟩, hmono⟩
        rw [follow, he]
        exact hf
      cases hp : tree.at? place with
      | none =>
          rw [hp] at h
          obtain ⟨hdir, hmono⟩ := dirAt_put_empty hr hp
          obtain ⟨hq, hmono'⟩ := hnext hdir h
          exact ⟨hq, fun p hp => hmono' p (hmono p hp)⟩
      | some t =>
          cases t with
          | file content => rw [hp] at h; cases h
          | dir entries =>
              rw [hp] at h
              exact hnext ⟨entries, hp⟩ h

theorem of_createDirs {d d' : Disk} {dir : String} (h : d.createDirs dir = .ok d') :
    (dir = "" ∧ d' = d) ∨
      ∃ tree, makeDirs d.tree (d.start dir) (parts dir) = .ok tree ∧ d' = { d with tree := tree } := by
  rw [createDirs] at h
  by_cases hdir : dir = ""
  · subst hdir
    cases h
    exact Or.inl ⟨rfl, rfl⟩
  · have hempty : dir.isEmpty = false := by
      rw [Bool.eq_false_iff, ne_eq, String.isEmpty_iff]
      exact hdir
    rw [hempty, if_neg (by decide), ← start] at h
    dsimp only at h
    cases hm : makeDirs d.tree (d.start dir) (parts dir) with
    | error e => rw [hm] at h; cases h
    | ok tree =>
        rw [hm] at h
        cases h
        exact Or.inr ⟨tree, rfl, rfl⟩

/-- **A directory that was created is there.** -/
theorem leadsTo_of_createDirs {d d' : Disk} {dir : String}
    (hr : isAbsolute dir = false → d.Rooted) (h : d.createDirs dir = .ok d') :
    ∃ place, d'.LeadsTo dir place := by
  rcases of_createDirs h with ⟨rfl, rfl⟩ | ⟨tree, hm, rfl⟩
  · exact ⟨d'.cwd, rfl, hr (by decide)⟩
  · have hstart : Creatable d.tree (d.start dir) := by
      unfold start
      cases hroot : isAbsolute dir with
      | true => exact Or.inl ⟨d.tree, rfl⟩
      | false =>
          obtain ⟨entries, he⟩ := hr hroot
          exact Or.inl ⟨_, he⟩
    obtain ⟨⟨q, hf, hq⟩, _⟩ := makeDirs_ok hstart hm
    exact ⟨q, hf, hq⟩

/-! ### Paths without steps upward -/

/-- Without a step upward, a path only goes down. -/
theorem prefix_of_follow {tree : FileTree} {place q : List String} {parts : List String}
    (hup : ".." ∉ parts) (h : follow tree place parts = .ok q) : place <+: q := by
  induction parts generalizing place with
  | nil =>
      injection h with h
      subst h
      exact List.prefix_refl _
  | cons part parts ih =>
      have hnot : (part == "..") = false := by
        rw [beq_eq_false_iff_ne]
        rintro rfl
        exact hup List.mem_cons_self
      have hstep : place <+: step place part := by
        rw [step, hnot]
        split
        · exact List.prefix_refl _
        · exact List.prefix_append ..
      rw [follow] at h
      cases hp : tree.at? place with
      | none => rw [hp] at h; cases h
      | some t =>
          cases t with
          | file content => rw [hp] at h; cases h
          | dir entries =>
              rw [hp] at h
              exact hstep.trans (ih (fun hmem => hup (List.mem_cons_of_mem _ hmem)) h)

/-- Such a path leads to the same place in every tree that has the directory there. -/
theorem follow_of_dirAt {tree tree' : FileTree} {place q : List String} {parts : List String}
    (hup : ".." ∉ parts) (h : follow tree place parts = .ok q) (hq : tree'.DirAt q) :
    follow tree' place parts = .ok q := by
  induction parts generalizing place with
  | nil => exact h
  | cons part parts ih =>
      obtain ⟨rest, hrest⟩ := prefix_of_follow hup h
      rw [← hrest] at hq
      obtain ⟨entries, he⟩ := FileTree.dirAt_of_append hq
      rw [hrest] at hq
      rw [follow] at h ⊢
      rw [he]
      cases hp : tree.at? place with
      | none => rw [hp] at h; cases h
      | some t =>
          cases t with
          | file content => rw [hp] at h; cases h
          | dir es =>
              rw [hp] at h
              exact ih (fun hmem => hup (List.mem_cons_of_mem _ hmem)) h

/-- An empty directory that is put on the way makes directories on the way. -/
theorem dirAt_of_put_on_way {tree : FileTree} {place p q : List String} (hway : place <+: q)
    (h : (tree.put place .empty).DirAt p) : tree.DirAt p ∨ p <+: q := by
  rcases FileTree.dirAt_of_put_empty h with hdir | hwithin
  · exact Or.inl hdir
  · exact Or.inr (hwithin.trans hway)

/-- The directories that are made for such a path lie on the way to the last of them. -/
theorem dirAt_of_makeDirs {tree tree' : FileTree} {place p q : List String} {parts : List String}
    (hup : ".." ∉ parts) (h : makeDirs tree place parts = .ok tree')
    (hf : follow tree' place parts = .ok q) (hp : tree'.DirAt p) : tree.DirAt p ∨ p <+: q := by
  induction parts generalizing tree place with
  | nil =>
      rw [makeDirs] at h
      cases ht : tree.at? place with
      | none =>
          rw [ht] at h
          injection h with h
          rw [← h] at hp
          exact dirAt_of_put_on_way (prefix_of_follow hup hf) hp
      | some t =>
          cases t with
          | file content => rw [ht] at h; cases h
          | dir entries =>
              rw [ht] at h
              injection h with h
              rw [h]
              exact Or.inl hp
  | cons part parts ih =>
      have hup' : ".." ∉ parts := fun hmem => hup (List.mem_cons_of_mem _ hmem)
      -- without a step upward, every place that is made is above the last one
      have hway := prefix_of_follow hup hf
      have hnext : follow tree' (step place part) parts = .ok q := by
        rw [follow] at hf
        cases ht : tree'.at? place with
        | none => rw [ht] at hf; cases hf
        | some t =>
            cases t with
            | file content => rw [ht] at hf; cases hf
            | dir entries => rw [ht] at hf; exact hf
      rw [makeDirs] at h
      cases ht : tree.at? place with
      | none =>
          rw [ht] at h
          rcases ih hup' h hnext with hdir | hwithin
          · exact dirAt_of_put_on_way hway hdir
          · exact Or.inr hwithin
      | some t =>
          cases t with
          | file content => rw [ht] at h; cases h
          | dir entries =>
              rw [ht] at h
              exact ih hup' h hnext

/-- A directory that exists is not created again. -/
theorem makeDirs_of_follow {tree : FileTree} {place q : List String} {parts : List String}
    (h : follow tree place parts = .ok q) (hq : tree.DirAt q) :
    makeDirs tree place parts = .ok tree := by
  induction parts generalizing place with
  | nil =>
      injection h with h
      obtain ⟨entries, he⟩ := hq
      rw [makeDirs, h, he]
  | cons part parts ih =>
      rw [follow] at h
      rw [makeDirs]
      cases ht : tree.at? place with
      | none => rw [ht] at h; cases h
      | some t =>
          cases t with
          | file content => rw [ht] at h; cases h
          | dir entries => rw [ht] at h; exact ih h

theorem LeadsTo.createDirs {d : Disk} {dir : String} {place : List String}
    (hd : d.LeadsTo dir place) : d.createDirs dir = .ok d := by
  rw [Disk.createDirs]
  cases dir.isEmpty with
  | true => rfl
  | false =>
      rw [if_neg (by decide), ← start]
      dsimp only
      rw [makeDirs_of_follow hd.follows hd.isDir]
      rfl

/-- A path leads nowhere unless it starts at a directory. -/
theorem LeadsTo.dirAt_start {d : Disk} {dir : String} {place : List String}
    (hd : d.LeadsTo dir place) : d.tree.DirAt (d.start dir) := by
  obtain ⟨hf, hdir⟩ := hd
  cases hparts : parts dir with
  | nil =>
      rw [hparts] at hf
      injection hf with hf
      rw [hf]
      exact hdir
  | cons part rest =>
      rw [hparts, follow] at hf
      cases ht : d.tree.at? (d.start dir) with
      | none => rw [ht] at hf; cases hf
      | some t =>
          cases t with
          | file content => rw [ht] at hf; cases hf
          | dir entries => exact ⟨entries, ht⟩

/--
**Creating a directory takes no place in it,** unless its path has a step upward: the places on the way
are above it.
-/
theorem isDir_join_of_createDirs {d d' : Disk} {dir : String} {place : List String}
    (hup : ".." ∉ parts dir) (h : d.createDirs dir = .ok d') (hd : d'.LeadsTo dir place)
    {name : String} (hname : FileName name) (hfree : d.isDir (join dir name) = false) :
    d'.isDir (join dir name) = false := by
  rcases of_createDirs h with ⟨rfl, rfl⟩ | ⟨tree, hm, rfl⟩
  · exact hfree
  · rw [Bool.eq_false_iff]
    intro htaken
    obtain ⟨entries, he⟩ : tree.DirAt (place ++ [name]) := by
      rw [Disk.isDir, hd.get_join hname] at htaken
      dsimp only at htaken
      cases hp : tree.at? (place ++ [name]) with
      | none => rw [hp] at htaken; cases htaken
      | some t =>
          cases t with
          | file content => rw [hp] at htaken; cases htaken
          | dir entries => exact ⟨entries, hp⟩
    -- such a directory was there before, or it lies above the one it is in
    rcases dirAt_of_makeDirs hup hm hd.follows ⟨entries, he⟩ with ⟨old, hold⟩ | hwithin
    · have habove := FileTree.dirAt_of_append (p := place) ⟨old, hold⟩
      have hbefore : d.LeadsTo dir place := ⟨follow_of_dirAt hup hd.follows habove, habove⟩
      rw [Disk.isDir, hbefore.get_join hname, hold] at hfree
      cases hfree
    · have hlen := hwithin.length_le
      rw [List.length_append, List.length_singleton] at hlen
      omega

end Disk

end Grounded
