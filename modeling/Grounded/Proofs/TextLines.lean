import Grounded.Text.Line

/-!
# Parts and lines of a text

A text split at a character gives parts that do not hold the character, and joined by it again the parts are
the text. Lines are such parts, without the carriage returns at their ends.
-/

namespace Grounded.Text

/-! ## Parts -/

theorem splitOn_of_not_mem {sep : Char} {s : List Char} (h : sep ∉ s) : splitOn sep s = [s] := by
  induction s with
  | nil => rfl
  | cons c s ih =>
      have hc : (c == sep) = false := by
        rw [beq_eq_false_iff_ne]
        exact fun he => h (he ▸ List.mem_cons_self)
      rw [splitOn, hc, ih (fun hm => h (List.mem_cons_of_mem c hm))]
      rfl

theorem splitOn_ne_nil (sep : Char) (s : List Char) : splitOn sep s ≠ [] := by
  cases s with
  | nil => exact List.cons_ne_nil _ _
  | cons c s =>
      rw [splitOn]
      split
      · exact List.cons_ne_nil _ _
      · split
        · exact List.cons_ne_nil _ _
        · exact List.cons_ne_nil _ _

theorem splitOn_append (sep : Char) (s t : List Char) :
    splitOn sep (s ++ sep :: t) = splitOn sep s ++ splitOn sep t := by
  induction s with
  | nil =>
      simp only [List.nil_append, splitOn, beq_self_eq_true, if_true]
      rfl
  | cons c s ih =>
      rw [List.cons_append, splitOn, splitOn, ih]
      split
      · rfl
      · cases hs : splitOn sep s with
        | nil => exact absurd hs (splitOn_ne_nil sep s)
        | cons part parts => rfl

theorem not_mem_of_mem_splitOn {sep : Char} {s part : List Char} (h : part ∈ splitOn sep s) :
    sep ∉ part := by
  induction s generalizing part with
  | nil =>
      rw [List.mem_singleton.mp h]
      exact List.not_mem_nil
  | cons c s ih =>
      obtain ⟨first, parts, hsplit⟩ := List.exists_cons_of_ne_nil (splitOn_ne_nil sep s)
      rw [splitOn, hsplit] at h
      rw [hsplit] at ih
      by_cases hc : (c == sep) = true
      · rw [if_pos hc] at h
        rcases List.mem_cons.mp h with rfl | h
        · exact List.not_mem_nil
        · exact ih h
      · rw [if_neg hc] at h
        rcases List.mem_cons.mp h with rfl | h
        · rw [List.mem_cons, not_or]
          refine ⟨?_, ih List.mem_cons_self⟩
          rintro rfl
          exact hc (beq_self_eq_true _)
        · exact ih (List.mem_cons_of_mem _ h)

/-! ## Joined parts -/

theorem joinWith_splitOn (sep : Char) (s : List Char) : joinWith [sep] (splitOn sep s) = s := by
  induction s with
  | nil => rfl
  | cons c s ih =>
      obtain ⟨part, parts, hsplit⟩ := List.exists_cons_of_ne_nil (splitOn_ne_nil sep s)
      rw [hsplit] at ih
      rw [splitOn, hsplit]
      by_cases hc : (c == sep) = true
      · rw [if_pos hc, joinWith, ih, eq_of_beq hc]
        · rfl
        · exact List.cons_ne_nil part parts
      · rw [if_neg hc]
        cases parts with
        | nil => rw [← ih]; rfl
        | cons next parts => rw [← ih]; rfl

theorem joinWith_cons (line next : List Char) (lines : List (List Char)) :
    joinWith ['\n'] (line :: next :: lines) = line ++ '\n' :: joinWith ['\n'] (next :: lines) :=
  List.append_assoc line ['\n'] _

theorem joinWith_append_singleton {lines : List (List Char)} (h : lines ≠ []) (last : List Char) :
    joinWith ['\n'] (lines ++ [last]) = joinWith ['\n'] lines ++ '\n' :: last := by
  obtain ⟨line, lines, rfl⟩ := List.exists_cons_of_ne_nil h
  induction lines generalizing line with
  | nil => exact joinWith_cons line last []
  | cons next lines ih =>
      have hrest := ih next (List.cons_ne_nil next lines)
      rw [List.cons_append] at hrest
      rw [List.cons_append, List.cons_append, joinWith_cons, joinWith_cons, hrest, List.append_assoc,
        List.cons_append]

theorem joinWith_ne_nil {sep : List Char} {parts : List (List Char)} (hne : parts ≠ [])
    (h : ∀ part ∈ parts, part ≠ []) : joinWith sep parts ≠ [] := by
  cases parts with
  | nil => exact absurd rfl hne
  | cons part parts =>
      have hpart : part ≠ [] := h part List.mem_cons_self
      cases parts with
      | nil => exact hpart
      | cons next parts =>
          rw [joinWith, List.append_assoc]
          · exact List.append_ne_nil_of_left_ne_nil hpart _
          · exact List.cons_ne_nil next parts

/-! ## Lines -/

theorem not_mem_dropReturn {line : List Char} (h : '\n' ∉ line) : '\n' ∉ dropReturn line := by
  rw [dropReturn]
  split
  · exact fun hmem => h (List.dropLast_subset line hmem)
  · exact h

/-- A line holds no line feed. -/
theorem not_mem_of_mem_lines {s line : List Char} (h : line ∈ lines s) : '\n' ∉ line := by
  have hparts : ∀ part ∈ splitLines s, '\n' ∉ part := fun part hp => not_mem_of_mem_splitOn hp
  have hfront : ∀ l ∈ (splitLines s).dropLast.map dropReturn, '\n' ∉ l := by
    intro l hl
    obtain ⟨part, hpart, rfl⟩ := List.mem_map.mp hl
    exact not_mem_dropReturn (hparts part (List.dropLast_subset _ hpart))
  rw [lines] at h
  split at h
  · exact hfront line h
  · rename_i last _ hlast
    rcases List.mem_append.mp h with h | h
    · exact hfront line h
    · rw [List.mem_singleton.mp h]
      exact hparts last (List.mem_of_getLast? hlast)
  · cases h

end Grounded.Text
