import Grounded.Files.Tree

/-!
# What a tree looks like after a change

`put` changes one place of a tree. What was put is there, what stands beside it stays, and a directory
stays a directory, unless it is itself the place. An empty directory that is put somewhere makes no
other directory than those on the way.
-/

namespace Grounded

namespace FileTree

/-! ## Places in a tree -/

theorem child?_setEntry_self (name : String) (t : FileTree) (entries : List (String × FileTree)) :
    (dir (setEntry name t entries)).child? name = some t := by
  induction entries with
  | nil => simp only [setEntry, child?, List.find?, beq_self_eq_true, Option.map_some]
  | cons entry entries ih =>
      rw [setEntry]
      split
      · simp only [child?, List.find?, beq_self_eq_true, Option.map_some]
      · rename_i hne
        rw [Bool.not_eq_true] at hne
        simp only [child?, List.find?, hne] at ih ⊢
        exact ih

theorem child?_setEntry_of_ne {name other : String} (h : name ≠ other) (t : FileTree)
    (entries : List (String × FileTree)) :
    (dir (setEntry name t entries)).child? other = (dir entries).child? other := by
  have hne : (name == other) = false := beq_eq_false_iff_ne.mpr h
  induction entries with
  | nil => simp only [setEntry, child?, List.find?, hne]
  | cons entry entries ih =>
      rw [setEntry]
      split
      · rename_i he
        rw [beq_iff_eq] at he
        simp only [child?, List.find?, he, hne]
      · simp only [child?, List.find?] at ih ⊢
        split
        · rfl
        · exact ih

theorem at?_append (p q : List String) (t : FileTree) : at? (p ++ q) t = (at? p t).bind (at? q) := by
  induction p generalizing t with
  | nil => rfl
  | cons name p ih =>
      rw [List.cons_append, at?, at?]
      cases t.child? name with
      | none => rfl
      | some below => exact ih below

/-- A directory is at the place. -/
def DirAt (place : List String) (t : FileTree) : Prop := ∃ entries, at? place t = some (.dir entries)

/-- No directory is at the place: a file, or nothing. -/
def NoDirAt (place : List String) (t : FileTree) : Prop := ∀ entries, at? place t ≠ some (.dir entries)

theorem dirAt_of_append {p q : List String} {t : FileTree} (h : DirAt (p ++ q) t) : DirAt p t := by
  obtain ⟨entries, h⟩ := h
  rw [at?_append] at h
  cases hp : at? p t with
  | none => rw [hp] at h; cases h
  | some below =>
      cases below with
      | dir entries => exact ⟨entries, hp⟩
      | file content =>
          rw [hp] at h
          cases q with
          | nil => cases h
          | cons name q => cases h

theorem put_cons (entries : List (String × FileTree)) (name : String) {rest : List String}
    (h : rest ≠ []) (new : FileTree) : put (.dir entries) (name :: rest) new =
      match (dir entries).child? name with
      | some below => .dir (setEntry name (put below rest new) entries)
      | none => .dir entries := by
  cases rest with
  | nil => exact absurd rfl h
  | cons next rest =>
      rw [put, child?]
      · cases entries.find? (·.1 == name) with
        | none => rfl
        | some entry => rfl
      · exact h

/-- Above the place, `put` works on the tree below. -/
theorem at?_put_append (p : List String) {q : List String} (hq : q ≠ []) (t new : FileTree) :
    at? p (put t (p ++ q) new) = (at? p t).map (put · q new) := by
  induction p generalizing t with
  | nil => rfl
  | cons name p ih =>
      cases t with
      | file content => rw [List.cons_append, put]; rfl
      | dir entries =>
          have hne : p ++ q ≠ [] := by
            intro h
            exact hq (List.append_eq_nil_iff.mp h).2
          rw [List.cons_append, put_cons entries name hne, at?]
          cases hc : (dir entries).child? name with
          | none =>
              dsimp only
              rw [at?, hc]
              rfl
          | some below =>
              dsimp only
              rw [child?_setEntry_self, Option.bind_some, ih, at?, hc]
              rfl

/-- Where the directory above exists, what was put is there. -/
theorem at?_put_self {place : List String} {t : FileTree} (h : DirAt place t) (name : String)
    (new : FileTree) : at? (place ++ [name]) (put t (place ++ [name]) new) = some new := by
  obtain ⟨entries, h⟩ := h
  rw [at?_append, at?_put_append place (by simp), h, Option.map_some, Option.bind_some, put, at?,
    child?_setEntry_self, Option.bind_some]
  rfl

/-- What stands beside it stays. -/
theorem at?_put_sibling {place : List String} {t : FileTree} (h : DirAt place t)
    {name other : String} (hne : name ≠ other) (new : FileTree) :
    at? (place ++ [other]) (put t (place ++ [name]) new) = at? (place ++ [other]) t := by
  obtain ⟨entries, h⟩ := h
  rw [at?_append, at?_put_append place (by simp), h, at?_append, h]
  simp only [Option.map_some, Option.bind_some, put, at?, child?_setEntry_of_ne hne]

theorem child?_put_of_ne {name other : String} (h : other ≠ name)
    (entries : List (String × FileTree)) (rest : List String) (new : FileTree) :
    (put (.dir entries) (other :: rest) new).child? name = (dir entries).child? name := by
  cases rest with
  | nil => rw [put, child?_setEntry_of_ne h]
  | cons next rest =>
      rw [put_cons entries other (List.cons_ne_nil next rest)]
      cases (dir entries).child? other with
      | none => rfl
      | some below => exact child?_setEntry_of_ne h _ entries

/-- **A directory stays one** when something is put where no directory is. -/
theorem dirAt_put {p target : List String} {t : FileTree} (hp : DirAt p t) (ht : NoDirAt target t)
    (new : FileTree) : DirAt p (put t target new) := by
  induction p generalizing target t with
  | nil =>
      obtain ⟨entries, he⟩ := hp
      cases he
      cases target with
      | nil => exact absurd rfl (ht entries)
      | cons name rest =>
          cases rest with
          | nil => exact ⟨_, rfl⟩
          | cons next rest =>
              rw [put_cons entries name (List.cons_ne_nil next rest)]
              cases (dir entries).child? name with
              | none => exact ⟨_, rfl⟩
              | some below => exact ⟨_, rfl⟩
  | cons name p ih =>
      obtain ⟨es, he⟩ := hp
      cases t with
      | file content => cases he
      | dir entries =>
          rw [at?] at he
          cases hc : (dir entries).child? name with
          | none => rw [hc] at he; cases he
          | some below =>
              rw [hc, Option.bind_some] at he
              cases target with
              | nil => exact absurd rfl (ht entries)
              | cons other rest =>
                  -- the change is below the same name, or beside it
                  by_cases hno : other = name
                  · subst hno
                    have hbelow : NoDirAt rest below := by
                      intro es' hes
                      refine ht es' ?_
                      rw [at?, hc]
                      exact hes
                    cases rest with
                    | nil =>
                        -- the place itself cannot lie on the way to a directory
                        obtain ⟨es', hes⟩ := dirAt_of_append (p := []) (q := p) ⟨es, he⟩
                        exact absurd hes (hbelow es')
                    | cons next rest =>
                        obtain ⟨es', hes⟩ := ih ⟨es, he⟩ hbelow
                        refine ⟨es', ?_⟩
                        rw [put_cons entries other (List.cons_ne_nil next rest), hc]
                        dsimp only
                        rw [at?, child?_setEntry_self]
                        exact hes
                  · refine ⟨es, ?_⟩
                    rw [at?, child?_put_of_ne hno, hc]
                    exact he

/-- Putting an empty directory somewhere makes directories on the way at most. -/
theorem dirAt_of_put_empty {p target : List String} {t : FileTree}
    (h : DirAt p (put t target .empty)) : DirAt p t ∨ p <+: target := by
  induction p generalizing target t with
  | nil => exact Or.inr (List.nil_prefix ..)
  | cons name p ih =>
      obtain ⟨es, he⟩ := h
      cases target with
      | nil => cases he
      | cons other rest =>
          cases t with
          | file content => rw [put] at he; cases he
          | dir entries =>
              by_cases hno : other = name
              · subst hno
                cases rest with
                -- the new directory is here, and it has nothing below it
                | nil =>
                    rw [put, at?, child?_setEntry_self, Option.bind_some] at he
                    cases p with
                    | nil => exact Or.inr (List.prefix_refl _)
                    | cons next p => cases he
                | cons next rest =>
                    rw [put_cons entries other (List.cons_ne_nil next rest)] at he
                    cases hc : (dir entries).child? other with
                    | none => rw [hc] at he; exact Or.inl ⟨es, he⟩
                    | some below =>
                        rw [hc] at he
                        dsimp only at he
                        rw [at?, child?_setEntry_self, Option.bind_some] at he
                        rcases ih ⟨es, he⟩ with ⟨es', hes⟩ | hwithin
                        · refine Or.inl ⟨es', ?_⟩
                          rw [at?, hc]
                          exact hes
                        · exact Or.inr (List.cons_prefix_cons.mpr ⟨rfl, hwithin⟩)
              · rw [at?, child?_put_of_ne hno] at he
                exact Or.inl ⟨es, he⟩

end FileTree

end Grounded
