import Grounded.Proofs.TreeWalk

/-!
# Changes to files

A change tells for every file, by its place and its content, what becomes of it: another content, or
nothing. Directories stay. `changed?` does this to a whole tree at once, so that many files can be
overwritten or taken away in one step, whatever their paths are called. A write to one file and its removal
are such changes.
-/

namespace Grounded

namespace FileTree

/-- What becomes of a file, from its place and its content: another content, or nothing. -/
abbrev Change := List String → ByteArray → Option ByteArray

/-- The change as it is seen from an entry. -/
def Change.below (f : Change) (name : String) : Change := fun place => f (name :: place)

/-- The change that leaves everything as it is. -/
def Change.none : Change := fun _ content => some content

mutual

/-- The tree with each file changed; of a file that is taken away nothing is left. -/
def changed? : Change → FileTree → Option FileTree
  | f, .file content => (f [] content).map .file
  | f, .dir entries => some (.dir (changedEntries f entries))

/-- The entries with each file changed. -/
def changedEntries : Change → List (String × FileTree) → List (String × FileTree)
  | _, [] => []
  | f, (name, t) :: rest =>
    match changed? (f.below name) t with
    | some t => (name, t) :: changedEntries f rest
    | none => changedEntries f rest

end

/-- A directory stays where it is, even as the root. -/
def changedBelow (f : Change) : FileTree → FileTree
  | .file content => .file content
  | .dir entries => .dir (changedEntries f entries)

/-! ## The entries of a directory -/

theorem child?_cons (entry : String × FileTree) (entries : List (String × FileTree)) (name : String) :
    (dir (entry :: entries)).child? name
      = if entry.1 = name then some entry.2 else (dir entries).child? name := by
  rw [child?, List.find?_cons]
  by_cases h : entry.1 = name
  · rw [if_pos h, beq_iff_eq.mpr h]
    rfl
  · rw [if_neg h, beq_eq_false_iff_ne.mpr h]
    rfl

theorem child?_eq_none_of_not_mem {entries : List (String × FileTree)} {name : String}
    (h : name ∉ entries.map (·.1)) : (dir entries).child? name = none := by
  induction entries with
  | nil => rfl
  | cons entry entries ih =>
      rw [List.map_cons, List.mem_cons, not_or] at h
      rw [child?_cons, if_neg (Ne.symm h.1), ih h.2]

/-- No entry is added or renamed. -/
theorem names_changedEntries (f : Change) (entries : List (String × FileTree)) :
    ((changedEntries f entries).map (·.1)).Sublist (entries.map (·.1)) := by
  induction entries with
  | nil => exact .slnil
  | cons entry entries ih =>
      rw [changedEntries]
      split
      · exact ih.cons_cons entry.1
      · exact ih.cons entry.1

theorem child?_changedEntries {entries : List (String × FileTree)} (h : (entries.map (·.1)).Nodup)
    (f : Change) (name : String) : (dir (changedEntries f entries)).child? name
      = ((dir entries).child? name).bind (changed? (f.below name)) := by
  induction entries with
  | nil => rfl
  | cons entry entries ih =>
      obtain ⟨first, t⟩ := entry
      obtain ⟨hnew, hrest⟩ := List.nodup_cons.mp h
      rw [child?_cons, changedEntries]
      by_cases hname : first = name
      · subst hname
        rw [if_pos rfl, Option.bind_some]
        cases ht : changed? (f.below first) t with
        | none =>
            -- another entry of that name would show now
            exact child?_eq_none_of_not_mem fun hmem => hnew ((names_changedEntries f entries).subset hmem)
        | some t' => rw [child?_cons, if_pos rfl]
      · rw [if_neg hname, ← ih hrest]
        cases changed? (f.below first) t with
        | none => rfl
        | some t' => rw [child?_cons, if_neg hname]

mutual

theorem Named.changed {f : Change} {t t' : FileTree} (h : t.Named) (ht : changed? f t = some t') :
    t'.Named := by
  match t with
  | .file content =>
    obtain ⟨content', _, rfl⟩ := Option.map_eq_some_iff.mp ht
    exact trivial
  | .dir entries =>
    obtain rfl := Option.some.inj ht
    exact ⟨h.1.sublist (names_changedEntries f entries), h.2.changedEntries f⟩

theorem AllNamed.changedEntries {entries : List (String × FileTree)} (h : AllNamed entries)
    (f : Change) : AllNamed (changedEntries f entries) := by
  match entries with
  | [] => exact trivial
  | (name, t) :: rest =>
    rw [FileTree.changedEntries]
    split
    · rename_i t' ht
      exact ⟨⟨h.1.1, h.1.2.changed ht⟩, h.2.changedEntries f⟩
    · exact h.2.changedEntries f

end

theorem Named.changedBelow {t : FileTree} (h : t.Named) (f : Change) : (t.changedBelow f).Named := by
  cases t with
  | file content => exact trivial
  | dir entries => exact h.changed rfl

/-! ## What is found after a change -/

/-- **At every place there is what the change makes of what was there.** -/
theorem at?_changed {f : Change} {t t' : FileTree} (h : t.Named) (ht : changed? f t = some t')
    (place : List String) :
    t'.at? place = (t.at? place).bind (changed? fun rest => f (place ++ rest)) := by
  induction place generalizing f t t' with
  | nil => exact ht.symm
  | cons name place ih =>
      cases t with
      | file content =>
          obtain ⟨content', _, rfl⟩ := Option.map_eq_some_iff.mp ht
          rfl
      | dir entries =>
          obtain rfl := Option.some.inj ht
          rw [at?, at?, child?_changedEntries h.1]
          cases hchild : (dir entries).child? name with
          | none => rfl
          | some below =>
              rw [Option.bind_some, Option.bind_some]
              cases hbelow : changed? (f.below name) below with
              | some below' => exact ih (h.of_child? hchild).2 hbelow
              | none =>
                  -- what is taken away is a file, with nothing below it
                  cases below with
                  | dir entries' => cases hbelow
                  | file content =>
                      cases place with
                      | nil => exact hbelow.symm
                      | cons next place => rfl

theorem dirAt_changed_iff {f : Change} {t t' : FileTree} (h : t.Named) (ht : changed? f t = some t')
    (place : List String) : t'.DirAt place ↔ t.DirAt place := by
  rw [DirAt, DirAt, at?_changed h ht]
  constructor
  · rintro ⟨entries', hat⟩
    obtain ⟨below, hbelow, hdir⟩ := Option.bind_eq_some_iff.mp hat
    cases below with
    | dir entries => exact ⟨entries, hbelow⟩
    | file content =>
        obtain ⟨_, _, hfile⟩ := Option.map_eq_some_iff.mp hdir
        cases hfile
  · rintro ⟨entries, hat⟩
    rw [hat]
    exact ⟨_, rfl⟩

theorem file_changed_iff {f : Change} {t t' : FileTree} (h : t.Named) (ht : changed? f t = some t')
    (place : List String) (content : ByteArray) : t'.at? place = some (.file content) ↔
      ∃ old, t.at? place = some (.file old) ∧ f place old = some content := by
  rw [at?_changed h ht]
  constructor
  · intro hat
    obtain ⟨below, hbelow, hfile⟩ := Option.bind_eq_some_iff.mp hat
    cases below with
    | dir entries => cases hfile
    | file old =>
        obtain ⟨content', hcontent, heq⟩ := Option.map_eq_some_iff.mp hfile
        cases heq
        have hplace : f (place ++ []) old = some content := hcontent
        rw [List.append_nil] at hplace
        exact ⟨old, hbelow, hplace⟩
  · rintro ⟨old, hold, hcontent⟩
    rw [hold, Option.bind_some, changed?, List.append_nil, hcontent]
    rfl

/-! ## One file -/

mutual

theorem changed?_none (t : FileTree) : changed? .none t = some t := by
  match t with
  | .file content => rfl
  | .dir entries => rw [changed?, changedEntries_none entries]

theorem changedEntries_none (entries : List (String × FileTree)) :
    changedEntries .none entries = entries := by
  match entries with
  | [] => rfl
  | (name, t) :: rest =>
    have ht : changed? (Change.none.below name) t = some t := changed?_none t
    rw [changedEntries, ht, changedEntries_none rest]

end

/-- Only this entry is touched by the change. -/
def Change.OnlyBelow (f : Change) (name : String) : Prop := ∀ other, other ≠ name → f.below other = .none

theorem changedEntries_of_not_mem {f : Change} {name : String} (hf : f.OnlyBelow name)
    {entries : List (String × FileTree)} (h : name ∉ entries.map (·.1)) :
    changedEntries f entries = entries := by
  induction entries with
  | nil => rfl
  | cons entry entries ih =>
      rw [List.map_cons, List.mem_cons, not_or] at h
      rw [changedEntries, hf entry.1 (Ne.symm h.1), changed?_none, ih h.2]

/-- A change below one entry sets it. -/
theorem changedEntries_eq_setEntry {f : Change} {name : String} (hf : f.OnlyBelow name)
    {entries : List (String × FileTree)} (h : (entries.map (·.1)).Nodup) {below below' : FileTree}
    (hchild : (dir entries).child? name = some below)
    (hbelow : changed? (f.below name) below = some below') :
    changedEntries f entries = setEntry name below' entries := by
  induction entries with
  | nil => cases hchild
  | cons entry entries ih =>
      obtain ⟨first, t⟩ := entry
      obtain ⟨hnew, hrest⟩ := List.nodup_cons.mp h
      rw [child?_cons] at hchild
      rw [changedEntries, setEntry]
      by_cases hname : first = name
      · subst hname
        rw [if_pos rfl] at hchild
        cases hchild
        rw [hbelow, if_pos (beq_self_eq_true _), changedEntries_of_not_mem hf hnew]
      · rw [if_neg hname] at hchild
        rw [hf first hname, changed?_none, if_neg (by rwa [beq_iff_eq]), ih hrest hchild]

/-- A change that takes one entry away leaves the others. -/
theorem changedEntries_eq_filter {f : Change} {name : String} (hf : f.OnlyBelow name)
    {entries : List (String × FileTree)} (h : (entries.map (·.1)).Nodup) {below : FileTree}
    (hchild : (dir entries).child? name = some below) (hbelow : changed? (f.below name) below = none) :
    changedEntries f entries = entries.filter (·.1 != name) := by
  induction entries with
  | nil => cases hchild
  | cons entry entries ih =>
      obtain ⟨first, t⟩ := entry
      obtain ⟨hnew, hrest⟩ := List.nodup_cons.mp h
      rw [child?_cons] at hchild
      rw [changedEntries]
      by_cases hname : first = name
      · subst hname
        rw [if_pos rfl] at hchild
        cases hchild
        have hothers : entries.filter (·.1 != first) = entries := by
          rw [List.filter_eq_self]
          intro other hother
          rw [bne_iff_ne]
          intro heq
          exact hnew (heq ▸ List.mem_map_of_mem (f := (·.1)) hother)
        rw [hbelow, List.filter_cons_of_neg (by simp), hothers, changedEntries_of_not_mem hf hnew]
      · rw [if_neg hname] at hchild
        rw [hf first hname, changed?_none, List.filter_cons_of_pos (by simpa using hname),
          ih hrest hchild]

/-- The change of one file. -/
def Change.at (place : List String) (new : Option ByteArray) : Change := fun p content =>
  if p = place then new else some content

theorem Change.below_at (name : String) (place : List String) (new : Option ByteArray) :
    (Change.at (name :: place) new).below name = .at place new := by
  funext p content
  simp [Change.below, Change.at]

theorem Change.onlyBelow_at (name : String) (place : List String) (new : Option ByteArray) :
    (Change.at (name :: place) new).OnlyBelow name := by
  intro other hother
  funext p content
  simp [Change.below, Change.at, Change.none, hother]

/-- **Putting a file over a file is a change of one file.** -/
theorem changed?_at_some {t : FileTree} (h : t.Named) {place : List String} {old : ByteArray}
    (hat : t.at? place = some (.file old)) (content : ByteArray) :
    changed? (.at place (some content)) t = some (t.put place (.file content)) := by
  induction place generalizing t with
  | nil =>
      cases hat
      rw [put]
      rfl
  | cons name place ih =>
      cases t with
      | file c => cases hat
      | dir entries =>
          obtain ⟨below, hchild, hbelow⟩ := Option.bind_eq_some_iff.mp hat
          have hset : changedEntries (.at (name :: place) (some content)) entries
              = setEntry name (below.put place (.file content)) entries := by
            refine changedEntries_eq_setEntry (Change.onlyBelow_at name place _) h.1 hchild ?_
            rw [Change.below_at]
            exact ih (h.of_child? hchild).2 hbelow
          rw [changed?, hset]
          cases place with
          | nil => rw [put, put]
          | cons next place => rw [put_cons entries name (List.cons_ne_nil next place), hchild]

/-- **Taking a file away is a change of one file.** -/
theorem changed?_at_none {t : FileTree} (h : t.Named) {place : List String} (hne : place ≠ [])
    {old : ByteArray} (hat : t.at? place = some (.file old)) :
    changed? (.at place none) t = some (t.erase place) := by
  induction place generalizing t with
  | nil => exact absurd rfl hne
  | cons name place ih =>
      cases t with
      | file c => cases hat
      | dir entries =>
          obtain ⟨below, hchild, hbelow⟩ := Option.bind_eq_some_iff.mp hat
          rw [changed?]
          cases place with
          | nil =>
              obtain rfl := Option.some.inj hbelow
              rw [changedEntries_eq_filter (Change.onlyBelow_at name [] none) h.1 hchild
                (by rw [Change.below_at]; rfl), erase]
          | cons next place =>
              have hset : changedEntries (.at (name :: next :: place) none) entries
                  = setEntry name (below.erase (next :: place)) entries := by
                refine changedEntries_eq_setEntry (Change.onlyBelow_at name _ none) h.1 hchild ?_
                rw [Change.below_at]
                exact ih (h.of_child? hchild).2 (List.cons_ne_nil next place) hbelow
              rw [child?] at hchild
              obtain ⟨⟨found, t⟩, hfind, rfl⟩ := Option.map_eq_some_iff.mp hchild
              rw [hset, erase, hfind]
              exact List.cons_ne_nil next place

end FileTree

/-! ## Disks -/

namespace Disk

/-- The disk with each file changed. -/
def changed (d : Disk) (f : FileTree.Change) : Disk := { d with tree := d.tree.changedBelow f }

/-- The disk with the files at the given places overwritten, each with its new content. -/
def overwritten (d : Disk) (which : List String → Bool) (content : List String → ByteArray) : Disk :=
  d.changed fun place old => some (if which place then content place else old)

/-- The disk without the files at the given places. -/
def without (d : Disk) (which : List String → Bool) : Disk :=
  d.changed fun place old => if which place then none else some old

/-- Where a file lies below the root, the root is a directory. -/
theorem changedBelow_eq {f : FileTree.Change} {t t' : FileTree} {place : List String}
    {old : ByteArray} (hne : place ≠ []) (hat : t.at? place = some (.file old))
    (h : t.changed? f = some t') : t.changedBelow f = t' := by
  cases t with
  | dir entries => exact Option.some.inj h
  | file content =>
      cases place with
      | nil => exact absurd rfl hne
      | cons name place => cases hat

section

variable {d : Disk} (h : d.tree.Named) {path : String} {place : List String} {old : ByteArray}
  (hplace : d.place path = .ok place) (hne : place ≠ [])
  (hat : d.tree.at? place = some (.file old))

include h hplace hne hat

/-- **A write to a file overwrites it,** and changes no other. -/
theorem write_eq_overwritten (content : ByteArray) :
    d.write path content = .ok (d.overwritten (· == place) fun _ => content) := by
  have hone : (fun p old => some (if (p == place) = true then content else old))
      = FileTree.Change.at place (some content) := by
    funext p old
    by_cases hp : p = place <;> simp [FileTree.Change.at, hp]
  rw [overwritten, hone, changed, changedBelow_eq hne hat (FileTree.changed?_at_some h hat content),
    write, hplace]
  simp only [bind, Except.bind, hat]

/-- **A file that is removed is taken away,** and no other. -/
theorem remove_eq_without : d.remove path = .ok (d.without (· == place)) := by
  have hone : (fun p old => if (p == place) = true then none else some old)
      = FileTree.Change.at place none := by
    funext p old
    by_cases hp : p = place <;> simp [FileTree.Change.at, hp]
  rw [without, hone, changed, changedBelow_eq hne hat (FileTree.changed?_at_none h hne hat), remove,
    hplace]
  simp only [bind, Except.bind, hat]

end

end Disk

end Grounded
