import Mathlib.Data.List.TakeWhile
import Grounded.Text.Blank

/-!
# Trimming

A trimmed text has no blank at either end, and trimming leaves such a text alone. What is appended to a
text with something left of it does not change how its start is trimmed; blanks appended to a text do
not change what is left at all.
-/

namespace Grounded.Text

/-- Neither the first nor the last character is blank. -/
structure Trimmed (s : List Char) : Prop where
  head : ∀ c ∈ s.head?, isBlank c = false
  last : ∀ c ∈ s.getLast?, isBlank c = false

theorem head?_trimStart (s : List Char) : ∀ c ∈ (trimStart s).head?, isBlank c = false := by
  intro c hc
  have h := List.head?_dropWhile_not isBlank s
  rw [trimStart] at hc
  rw [Option.mem_def] at hc
  rwa [hc] at h

/-- A text that begins with no blank is not trimmed. -/
theorem trimStart_of_head {s : List Char} (h : ∀ c ∈ s.head?, isBlank c = false) :
    trimStart s = s := by
  cases s with
  | nil => rfl
  | cons c s => rw [trimStart, List.dropWhile_cons_of_neg (by simp [h c rfl])]

theorem takeWhile_of_head {s : List Char} (h : ∀ c ∈ s.head?, isBlank c = false) :
    s.takeWhile isBlank = [] := by
  cases s with
  | nil => rfl
  | cons c s =>
      have hc : isBlank c = false := h c rfl
      exact List.takeWhile_cons_of_neg (by rw [hc]; decide)

/-- Nothing is cut off an end that is not blank. -/
theorem trimEnd_of_last {s : List Char} (h : ∀ c ∈ s.getLast?, isBlank c = false) :
    trimEnd s = s := by
  have hstart : trimStart s.reverse = s.reverse :=
    trimStart_of_head (by rw [List.head?_reverse]; exact h)
  show (trimStart s.reverse).reverse = s
  rw [hstart, List.reverse_reverse]

/-- A text that ends in no blank is only trimmed at its start. -/
theorem trim_of_last {s : List Char} (h : ∀ c ∈ s.getLast?, isBlank c = false) :
    trim s = trimStart s := by
  refine trimEnd_of_last ?_
  intro c hc
  obtain ⟨t, ht⟩ := List.dropWhile_suffix isBlank (l := s)
  refine h c ?_
  rw [← ht, List.getLast?_append]
  rw [Option.mem_def] at hc ⊢
  rw [trimStart] at hc
  rw [hc]
  rfl

theorem getLast?_trimEnd (s : List Char) : ∀ c ∈ (trimEnd s).getLast?, isBlank c = false := by
  intro c hc
  rw [trimEnd, List.getLast?_reverse] at hc
  exact head?_trimStart s.reverse c hc

theorem isPrefix_trimEnd (s : List Char) : trimEnd s <+: s := by
  have hsuffix := List.dropWhile_suffix isBlank (l := s.reverse)
  rw [← List.reverse_prefix, List.reverse_reverse] at hsuffix
  exact hsuffix

theorem isInfix_trim (s : List Char) : trim s <:+: s :=
  (isPrefix_trimEnd (trimStart s)).isInfix.trans (List.dropWhile_suffix isBlank).isInfix

/-- What the end of a text loses does not change its start, unless nothing is left. -/
theorem head?_trimEnd {s : List Char} (h : ∀ c ∈ s.head?, isBlank c = false) :
    ∀ c ∈ (trimEnd s).head?, isBlank c = false := by
  intro c hc
  obtain ⟨t, ht⟩ := isPrefix_trimEnd s
  refine h c ?_
  rw [← ht, List.head?_append]
  rw [Option.mem_def] at hc ⊢
  rw [hc]
  rfl

theorem trimmed_trim (s : List Char) : Trimmed (trim s) :=
  ⟨head?_trimEnd (head?_trimStart s), getLast?_trimEnd (trimStart s)⟩

/-- Nothing is left of a text exactly if it is blank. -/
theorem trim_isEmpty_iff (s : List Char) : (trim s).isEmpty = true ↔ ∀ c ∈ s, isBlank c = true := by
  rw [List.isEmpty_iff, trim, trimEnd, trimStart, List.reverse_eq_nil_iff, List.dropWhile_eq_nil_iff]
  constructor
  · intro h c hc
    rw [← List.takeWhile_append_dropWhile (p := isBlank) (l := s), List.mem_append] at hc
    rcases hc with htaken | hleft
    · exact List.mem_takeWhile_imp htaken
    · exact h c (List.mem_reverse.mpr hleft)
  · intro h c hc
    exact h c ((List.dropWhile_sublist _).subset (List.mem_reverse.mp hc))

theorem trimStart_append_of_ne_nil {s : List Char} (h : trimStart s ≠ []) (t : List Char) :
    trimStart (s ++ t) = trimStart s ++ t := by
  rw [trimStart] at h
  rw [trimStart, List.dropWhile_append, List.isEmpty_eq_false_iff.mpr h]
  rfl

/-- A text that is not blank decides where the blanks at its start end. -/
theorem takeWhile_append_of_visible {s : List Char} (h : s.dropWhile isBlank ≠ []) (t : List Char) :
    (s ++ t).takeWhile isBlank = s.takeWhile isBlank ∧
      (s ++ t).dropWhile isBlank = s.dropWhile isBlank ++ t := by
  induction s with
  | nil => exact absurd rfl h
  | cons c s ih =>
      by_cases hc : isBlank c = true
      · rw [List.dropWhile_cons_of_pos hc] at h
        obtain ⟨htake, hdrop⟩ := ih h
        rw [List.cons_append, List.takeWhile_cons_of_pos hc, List.takeWhile_cons_of_pos hc,
          List.dropWhile_cons_of_pos hc, List.dropWhile_cons_of_pos hc, htake, hdrop]
        exact ⟨rfl, rfl⟩
      · rw [List.cons_append, List.takeWhile_cons_of_neg hc, List.takeWhile_cons_of_neg hc,
          List.dropWhile_cons_of_neg hc, List.dropWhile_cons_of_neg hc]
        exact ⟨rfl, rfl⟩

/-- Blanks behind a text do not matter. -/
theorem trim_append_blanks (s : List Char) {w : List Char} (hw : ∀ c ∈ w, isBlank c = true) :
    trim (s ++ w) = trim s := by
  by_cases hs : trimStart s = []
  · -- a blank text stays blank
    have hblank : ∀ c ∈ s, isBlank c = true := List.dropWhile_eq_nil_iff.mp hs
    have hboth : trimStart (s ++ w) = [] := by
      rw [trimStart, List.dropWhile_append_of_pos hblank, List.dropWhile_eq_nil_iff]
      exact hw
    rw [trim, trim, hs, hboth]
  · have hrev : ∀ c ∈ w.reverse, isBlank c = true := fun c hc => hw c (List.mem_reverse.mp hc)
    rw [trim, trim, trimStart_append_of_ne_nil hs, trimEnd, trimEnd, List.reverse_append,
      List.dropWhile_append_of_pos hrev]

/-- The end of a trimmed text is not blank. -/
theorem trimStart_ne_nil_of_suffix {s u : List Char} (hs : Trimmed s) (hu : u <:+ s) (hne : u ≠ []) :
    trimStart u ≠ [] := by
  intro hnone
  have hall : ∀ c ∈ u, isBlank c = true := List.dropWhile_eq_nil_iff.mp hnone
  obtain ⟨t, rfl⟩ := hu
  have hlast : (t ++ u).getLast? = some (u.getLast hne) := by
    rw [List.getLast?_append, List.getLast?_eq_some_getLast hne, Option.some_or]
  have hvisible := hs.last (u.getLast hne) hlast
  rw [hall _ (List.getLast_mem hne)] at hvisible
  cases hvisible

end Grounded.Text
