import Mathlib.Data.List.Infix
import Grounded.Text.Find

/-!
# Searches in texts

A text holds a needle if the needle stands somewhere in it as a whole. What is looked for behind a fixed
beginning is found there alone, if the needle is not in the beginning and does not begin in it either.
`clears` says so of a beginning and is decided on it.
-/

namespace Grounded.Text

theorem includes_iff_infix {needle s : List Char} : includes needle s = true ↔ needle <:+: s := by
  induction s with
  | nil => rw [includes, List.isEmpty_iff, List.infix_nil]
  | cons c s ih => rw [includes, Bool.or_eq_true, List.isPrefixOf_iff_prefix, ih, List.infix_cons_iff]

theorem afterStart?_eq_some_iff {start s rest : List Char} :
    afterStart? start s = some rest ↔ start ++ rest = s := by
  rw [afterStart?, Option.ite_none_right_eq_some, List.isPrefixOf_iff_prefix, Option.some.injEq]
  constructor
  · rintro ⟨⟨tail, rfl⟩, rfl⟩
    rw [List.drop_left]
  · rintro rfl
    exact ⟨List.prefix_append start rest, List.drop_left⟩

theorem afterStart?_append (start s : List Char) : afterStart? start (start ++ s) = some s :=
  afterStart?_eq_some_iff.mpr rfl

theorem afterStart?_singleton_cons (c : Char) (s : List Char) : afterStart? [c] (c :: s) = some s :=
  afterStart?_append [c] s

theorem suffix_of_cons_suffix_cons {c d : Char} {s t : List Char} (h : c :: s <:+ d :: t) : s <:+ t := by
  rcases List.suffix_cons_iff.mp h with heq | h
  · exact (List.cons.inj heq).2 ▸ List.suffix_rfl
  · exact (List.suffix_cons c s).trans h

/-- What begins with `q` does not begin in a text without `q`. -/
theorem suffix_of_not_mem {q : Char} {s before rest : List Char} (hq : q ∉ before)
    (h : q :: s <:+ before ++ rest) : q :: s <:+ rest := by
  induction before with
  | nil => exact h
  | cons c before ih =>
      rcases List.suffix_cons_iff.mp h with heq | h
      · obtain ⟨rfl, -⟩ := List.cons.inj heq
        exact absurd List.mem_cons_self hq
      · exact ih (fun hm => hq (List.mem_cons_of_mem c hm)) h

/-! ## Searches that pass over a fixed beginning -/

/-- Two texts that differ within the shorter of them still differ when the second one goes on. -/
theorem not_prefix_append {needle s : List Char} (h1 : ¬ needle <+: s) (h2 : ¬ s <+: needle)
    (rest : List Char) : ¬ needle <+: s ++ rest := by
  intro h
  rcases List.prefix_or_prefix_of_prefix h (List.prefix_append s rest) with hp | hp
  · exact h1 hp
  · exact h2 hp

/-- A needle that is not in the text before, in whole or in part, is looked for in the rest. -/
theorem includes_append_of_apart {needle before : List Char}
    (h : ∀ s, s <:+ before → s ≠ [] → ¬ needle <+: s ∧ ¬ s <+: needle) (rest : List Char) :
    includes needle (before ++ rest) = includes needle rest := by
  induction before with
  | nil => rfl
  | cons c before ih =>
      obtain ⟨hlonger, hshorter⟩ := h _ List.suffix_rfl (List.cons_ne_nil c before)
      have hnone := not_prefix_append hlonger hshorter rest
      have hrest := ih fun s hs hne => h s (hs.trans (List.suffix_cons c before)) hne
      rw [← List.isPrefixOf_iff_prefix, Bool.not_eq_true, List.cons_append] at hnone
      rw [List.cons_append, includes, hnone, hrest, Bool.false_or]

/-- No occurrence of `needle` begins within the text, whatever follows the text. -/
def clears (needle : List Char) : List Char → Bool
  | [] => true
  | c :: rest => !needle.isPrefixOf (c :: rest) && !(c :: rest).isPrefixOf needle && clears needle rest

theorem clears_cons {needle rest : List Char} {c : Char} (h : clears needle (c :: rest) = true) :
    (¬ needle <+: c :: rest ∧ ¬ c :: rest <+: needle) ∧ clears needle rest = true := by
  simp only [clears, Bool.and_eq_true, Bool.not_eq_true'] at h
  rw [← List.isPrefixOf_iff_prefix, ← List.isPrefixOf_iff_prefix, Bool.not_eq_true, Bool.not_eq_true]
  exact h

theorem clears_cons_of {needle rest : List Char} {c : Char} (hlonger : ¬ needle <+: c :: rest)
    (hshorter : ¬ c :: rest <+: needle) (h : clears needle rest = true) :
    clears needle (c :: rest) = true := by
  rw [← List.isPrefixOf_iff_prefix, Bool.not_eq_true] at hlonger hshorter
  rw [clears, hlonger, hshorter, h]
  rfl

theorem apart_of_clears {needle before : List Char} (h : clears needle before = true) :
    ∀ s, s <:+ before → s ≠ [] → ¬ needle <+: s ∧ ¬ s <+: needle := by
  induction before with
  | nil =>
      intro s hs hne
      exact absurd (List.suffix_nil.mp hs) hne
  | cons c before ih =>
      obtain ⟨hhere, hlater⟩ := clears_cons h
      intro s hs hne
      rcases List.suffix_cons_iff.mp hs with rfl | hs
      · exact hhere
      · exact ih hlater s hs hne

theorem includes_append_of_clears {needle s : List Char} (h : clears needle s = true)
    (rest : List Char) : includes needle (s ++ rest) = includes needle rest :=
  includes_append_of_apart (apart_of_clears h) rest

theorem clears_append {needle s t : List Char} (hs : clears needle s = true)
    (ht : clears needle t = true) : clears needle (s ++ t) = true := by
  induction s with
  | nil => exact ht
  | cons c s ih =>
      obtain ⟨⟨hlonger, hshorter⟩, hlater⟩ := clears_cons hs
      refine clears_cons_of ?_ ?_ (ih hlater)
      · exact not_prefix_append hlonger hshorter t
      · exact fun hp => hshorter ((List.prefix_append (c :: s) t).trans hp)

theorem clears_of_not_mem {q : Char} {needle s : List Char} (h : q ∉ s) :
    clears (q :: needle) s = true := by
  induction s with
  | nil => rfl
  | cons c s ih =>
      have hne : q ≠ c := fun he => h (he ▸ List.mem_cons_self)
      refine clears_cons_of ?_ ?_ (ih fun hm => h (List.mem_cons_of_mem c hm))
      · exact fun hp => hne (List.cons_prefix_cons.mp hp).1
      · exact fun hp => hne (List.cons_prefix_cons.mp hp).1.symm

/-- A character that is not in the needle closes a text that does not hold it. -/
theorem clears_concat {q : Char} {needle s : List Char} (hq : q ∉ needle)
    (h : includes needle s = false) : clears needle (s ++ [q]) = true := by
  have hlonger : ∀ t, t <:+ s → ¬ needle <+: t ++ [q] := by
    intro t ht hp
    rcases List.prefix_concat_iff.mp hp with rfl | hp
    · exact hq (List.mem_append_right t List.mem_cons_self)
    · rw [← Bool.not_eq_true, includes_iff_infix] at h
      exact h (hp.isInfix.trans ht.isInfix)
  have hshorter : ∀ t, ¬ t ++ [q] <+: needle := fun t hp =>
    hq (hp.subset (List.mem_append_right t List.mem_cons_self))
  clear h
  induction s with
  | nil => exact clears_cons_of (hlonger [] List.suffix_rfl) (hshorter []) rfl
  | cons c s ih =>
      exact clears_cons_of (hlonger (c :: s) List.suffix_rfl) (hshorter (c :: s))
        (ih fun t ht => hlonger t (ht.trans (List.suffix_cons c s)))

/-- A text without the first character of `needle` does not hold `needle`. -/
theorem includes_eq_false_of_not_mem {q : Char} {needle s : List Char} (h : q ∉ s) :
    includes (q :: needle) s = false := by
  induction s with
  | nil => rfl
  | cons c s ih =>
      have hq : (q == c) = false := by
        rw [beq_eq_false_iff_ne]
        exact fun he => h (he ▸ List.mem_cons_self)
      rw [includes, ih (fun hm => h (List.mem_cons_of_mem c hm)), List.isPrefixOf, hq]
      rfl

theorem includes_append_left {needle s : List Char} (h : includes needle s = true)
    (rest : List Char) : includes needle (s ++ rest) = true := by
  induction s with
  | nil =>
      have hn : needle = [] := List.isEmpty_iff.mp h
      subst hn
      cases rest <;> rfl
  | cons c s ih =>
      rw [includes, Bool.or_eq_true] at h
      rw [List.cons_append, includes, Bool.or_eq_true]
      rcases h with h | h
      · left
        rw [List.isPrefixOf_iff_prefix] at h ⊢
        exact h.trans (List.prefix_append (c :: s) rest)
      · exact Or.inr (ih h)

/-! ## Cuts at the first occurrence -/

/-- The parts of a cut with the needle between them are the text. -/
theorem append_of_cutFirst {needle s before after : List Char}
    (h : cutFirst needle s = some (before, after)) : before ++ (needle ++ after) = s := by
  induction s generalizing before with
  | nil =>
      rw [cutFirst, Option.ite_none_right_eq_some, List.isEmpty_iff] at h
      obtain ⟨rfl, heq⟩ := h
      cases heq
      rfl
  | cons c s ih =>
      rw [cutFirst] at h
      split at h
      · rename_i hhere
        cases h
        obtain ⟨tail, htail⟩ := List.isPrefixOf_iff_prefix.mp hhere
        rw [← htail, List.drop_left]
        rfl
      · obtain ⟨⟨first, rest⟩, hfound, heq⟩ := Option.map_eq_some_iff.mp h
        cases heq
        rw [List.cons_append, ih hfound]

theorem cutFirst_self {needle : List Char} (hne : needle ≠ []) (rest : List Char) :
    cutFirst needle (needle ++ rest) = some ([], rest) := by
  obtain ⟨c, needle, rfl⟩ := List.exists_cons_of_ne_nil hne
  have hhere : (c :: needle).isPrefixOf (c :: (needle ++ rest)) = true :=
    List.isPrefixOf_iff_prefix.mpr ⟨rest, rfl⟩
  rw [List.cons_append, cutFirst, if_pos hhere, ← List.cons_append, List.drop_left]

/-- A needle that is not in the text before, in whole or in part, is cut at in the rest. -/
theorem cutFirst_append_of_apart {needle before : List Char}
    (h : ∀ s, s <:+ before → s ≠ [] → ¬ needle <+: s ∧ ¬ s <+: needle) (rest : List Char) :
    cutFirst needle (before ++ rest)
      = (cutFirst needle rest).map fun found => (before ++ found.1, found.2) := by
  induction before with
  | nil =>
      have hid : (fun found : List Char × List Char => ([] ++ found.1, found.2)) = id := rfl
      rw [hid, Option.map_id]
      rfl
  | cons c before ih =>
      obtain ⟨hlonger, hshorter⟩ := h _ List.suffix_rfl (List.cons_ne_nil c before)
      have hnone := not_prefix_append hlonger hshorter rest
      have hrest := ih fun s hs hne => h s (hs.trans (List.suffix_cons c before)) hne
      rw [← List.isPrefixOf_iff_prefix, List.cons_append] at hnone
      rw [List.cons_append, cutFirst, if_neg hnone, hrest, Option.map_map]
      rfl

/-- What follows a text does not matter to a cut within it. -/
theorem cutFirst_append_of_some {needle s before after : List Char}
    (h : cutFirst needle s = some (before, after)) (rest : List Char) :
    cutFirst needle (s ++ rest) = some (before, after ++ rest) := by
  induction s generalizing before with
  | nil =>
      rw [cutFirst, Option.ite_none_right_eq_some, List.isEmpty_iff] at h
      obtain ⟨rfl, heq⟩ := h
      cases heq
      cases rest <;> rfl
  | cons c s ih =>
      rw [cutFirst] at h
      split at h
      · rename_i hhere
        cases h
        obtain ⟨tail, htail⟩ := List.isPrefixOf_iff_prefix.mp hhere
        have hhere' : needle.isPrefixOf (c :: (s ++ rest)) = true :=
          List.isPrefixOf_iff_prefix.mpr ⟨tail ++ rest, by rw [← List.append_assoc, htail]; rfl⟩
        rw [List.cons_append, cutFirst, if_pos hhere', ← List.cons_append, ← htail, List.append_assoc,
          List.drop_left, List.drop_left]
      · rename_i hnone
        obtain ⟨⟨first, found⟩, hfound, heq⟩ := Option.map_eq_some_iff.mp h
        cases heq
        -- the needle is as short as what is left, and does not begin here when that goes on
        have hshort : needle.length ≤ (c :: s).length := by
          rw [← append_of_cutFirst hfound]
          simp only [List.length_cons, List.length_append]
          omega
        have hnone' : ¬ needle.isPrefixOf (c :: (s ++ rest)) = true := by
          rw [List.isPrefixOf_iff_prefix] at hnone ⊢
          exact fun hp => hnone
            (List.prefix_of_prefix_length_le hp (List.prefix_append (c :: s) rest) hshort)
        rw [List.cons_append, cutFirst, if_neg hnone', ih hfound]
        rfl

theorem exists_cutFirst_of_includes {needle s : List Char} (h : includes needle s = true) :
    ∃ before after, cutFirst needle s = some (before, after) := by
  induction s with
  | nil => exact ⟨[], [], if_pos h⟩
  | cons c s ih =>
      rw [includes, Bool.or_eq_true] at h
      rw [cutFirst]
      split
      · exact ⟨_, _, rfl⟩
      · rename_i hnone
        obtain ⟨before, after, hfound⟩ := ih (h.resolve_left hnone)
        exact ⟨c :: before, after, by rw [hfound]; rfl⟩

end Grounded.Text
