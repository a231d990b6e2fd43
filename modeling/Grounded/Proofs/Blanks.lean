import Mathlib.Data.List.Basic
import Grounded.Proofs.Trimming
import Grounded.Text.Digit
import Grounded.Text.Word

/-!
# Blanks between words

No blank is a digit or a part of a word. The tables of characters are long, but there are only a few blanks,
and each of them is looked up in the tables. So blanks in front of a sign or behind a word are passed over
whatever the sign and the word are. Trimming takes away blanks and nothing else, and of a blank text it leaves
nothing.
-/

namespace Grounded.Text

/-- Only blanks. -/
def Blank (s : List Char) : Prop := ∀ c ∈ s, isBlank c = true

-- decided along the text, and not over all characters
instance (s : List Char) : Decidable (Blank s) := List.decidableBAll _ s

/-- The code points of some ranges. -/
def Ranges.codes (ranges : Ranges) : List Nat :=
  ranges.flatMap fun r => List.range' r.1 (r.2 + 1 - r.1)

theorem Ranges.mem_codes_of_has {ranges : Ranges} {n : Nat} (h : ranges.has n = true) :
    n ∈ ranges.codes := by
  induction ranges with
  | nil => cases h
  | cons r rest ih =>
      rw [codes, List.flatMap_cons, List.mem_append]
      rw [has] at h
      split at h
      · cases h
      · rename_i hfirst
        rcases Bool.or_eq_true _ _ ▸ h with hlast | hrest
        · left
          rw [List.mem_range'_1]
          have hlast : n ≤ r.2 := of_decide_eq_true hlast
          omega
        · exact .inr (ih hrest)

theorem isWord_of_isBlank {c : Char} (h : isBlank c = true) : isWord c = false := by
  have hcodes : ∀ n ∈ blankRanges.codes, wordRanges.has n = false := by decide +kernel
  exact hcodes _ (Ranges.mem_codes_of_has h)

theorem isDecimalDigit_of_isBlank {c : Char} (h : isBlank c = true) : isDecimalDigit c = false := by
  have hcodes : ∀ n ∈ blankRanges.codes, digitRanges.has n = false := by decide +kernel
  exact hcodes _ (Ranges.mem_codes_of_has h)

variable {w s : List Char} {c d : Char}

theorem Blank.not_mem (hw : Blank w) (hc : isBlank c = false) : c ∉ w := by
  intro h
  rw [hw c h] at hc
  cases hc

theorem trimStart_blank_append (hw : Blank w) (s : List Char) : trimStart (w ++ s) = trimStart s :=
  List.dropWhile_append_of_pos hw

theorem trimStart_blank_cons (hw : Blank w) (hc : isBlank c = false) (s : List Char) :
    trimStart (w ++ c :: s) = c :: s := by
  rw [trimStart_blank_append hw, trimStart, List.dropWhile_cons_of_neg (by rw [hc]; decide)]

/-- What is trimmed off at the start are blanks. -/
theorem exists_blank_append (s : List Char) : ∃ w, Blank w ∧ w ++ trimStart s = s :=
  ⟨s.takeWhile isBlank, fun _ => List.mem_takeWhile_imp, List.takeWhile_append_dropWhile⟩

/-- What is trimmed off at both ends are blanks. -/
theorem exists_blanks_trim (s : List Char) :
    ∃ left right, Blank left ∧ Blank right ∧ left ++ (trim s ++ right) = s := by
  obtain ⟨left, hleft, hstart⟩ := exists_blank_append s
  obtain ⟨right, hright, hend⟩ := exists_blank_append (trimStart s).reverse
  refine ⟨left, right.reverse, hleft, fun c hc => hright c (List.mem_reverse.mp hc), ?_⟩
  have htrim : trim s ++ right.reverse = trimStart s := by
    rw [trim, trimEnd, ← List.reverse_append]
    exact List.reverse_eq_iff.mpr hend
  rw [htrim, hstart]

/-- A trimmed text that is blank is empty. -/
theorem Trimmed.eq_nil_of_blank (ht : Trimmed s) (hs : Blank s) : s = [] := by
  cases s with
  | nil => rfl
  | cons c s =>
      have hvisible : isBlank c = false := ht.head c rfl
      rw [hs c List.mem_cons_self] at hvisible
      cases hvisible

/-- A text that begins with blanks or with a sign does not begin with a word or a number. -/
theorem head?_blank_cons {p : Char → Bool} (hw : Blank w) (hp : ∀ x, isBlank x = true → p x = false)
    (hc : p c = false) (s : List Char) : ∀ x ∈ (w ++ c :: s).head?, p x = false := by
  intro x hx
  cases w with
  | nil =>
      cases hx
      exact hc
  | cons y w =>
      cases hx
      exact hp x (hw x List.mem_cons_self)

end Grounded.Text
