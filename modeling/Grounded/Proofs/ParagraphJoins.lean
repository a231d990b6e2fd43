import Grounded.Proofs.ParagraphBreaks
import Grounded.Proofs.TextLines

/-!
# Paragraphs of joined texts

Blanks around a text have no part in its paragraphs. So a text can be trimmed before its paragraphs are
taken, and where texts are joined by blank lines, the paragraphs of the whole are those of its parts, one
part after the other. Lines that are joined by single line feeds make one paragraph, if none is blank.
-/

namespace Grounded.Text

theorem isBlank_lineFeed : isBlank '\n' = true := by decide

theorem blank_lineFeed : ∀ c ∈ ['\n'], isBlank c = true :=
  List.forall_mem_singleton.mpr isBlank_lineFeed

theorem blank_blankLine : ∀ c ∈ blankLine, isBlank c = true :=
  List.forall_mem_cons.mpr ⟨isBlank_lineFeed, blank_lineFeed⟩

/-! ## Blanks in front -/

/-- What was read before belongs to the first stretch. -/
theorem stretches_append (before extra s : List Char) :
    stretches (before ++ extra) s = (stretches before s).modifyHead (extra.reverse ++ ·) := by
  fun_induction stretches before s with
  | case1 before => rw [stretches, List.reverse_append, List.modifyHead_cons]
  | case2 before c rest hbreak ih =>
      rw [stretches, if_pos hbreak, List.reverse_append, List.modifyHead_cons]
  | case3 before c rest hbreak ih => rw [stretches, if_neg hbreak, ← List.cons_append, ih]

theorem trim_blanks_append {w : List Char} (hw : ∀ c ∈ w, isBlank c = true) (s : List Char) :
    trim (w ++ s) = trim s := by
  rw [trim, trim, trimStart, List.dropWhile_append_of_pos hw, trimStart]

theorem trim_eq_nil_of_blank {w : List Char} (hw : ∀ c ∈ w, isBlank c = true) : trim w = [] := by
  have hnone := trim_blanks_append hw []
  rw [List.append_nil] at hnone
  exact hnone

/-- A blank stretch is no paragraph. -/
theorem tidy_blank_cons {w : List Char} (hw : ∀ c ∈ w, isBlank c = true) (rest : List (List Char)) :
    tidy (w :: rest) = tidy rest := by
  rw [tidy, List.map_cons, trim_eq_nil_of_blank hw]
  rfl

theorem tidy_modifyHead_blanks {w : List Char} (hw : ∀ c ∈ w, isBlank c = true)
    (l : List (List Char)) : tidy (l.modifyHead (w ++ ·)) = tidy l := by
  cases l with
  | nil => rfl
  | cons s rest => rw [List.modifyHead_cons, tidy, tidy, List.map_cons, List.map_cons,
      trim_blanks_append hw]

theorem blank_reverse {w : List Char} (hw : ∀ c ∈ w, isBlank c = true) :
    ∀ c ∈ w.reverse, isBlank c = true := fun c hc => hw c (List.mem_reverse.mp hc)

theorem tidy_stretches_of_blank {before : List Char} (h : ∀ c ∈ before, isBlank c = true)
    (s : List Char) : tidy (stretches before s) = tidy (stretches [] s) := by
  have happend := stretches_append [] before s
  rw [List.nil_append] at happend
  rw [happend, tidy_modifyHead_blanks (blank_reverse h)]

/-- The pass finds nothing in the blanks at the start. -/
theorem tidy_stretches_trimStart {before : List Char} (h : ∀ c ∈ before, isBlank c = true)
    (s : List Char) : tidy (stretches before s) = tidy (stretches [] (trimStart s)) := by
  fun_induction stretches before s with
  | case1 before =>
      rw [tidy_blank_cons (blank_reverse h), trimStart, List.dropWhile_nil, stretches]
      rfl
  | case2 before c rest hbreak ih =>
      have hc : isBlank c = true := by
        rw [Bool.and_eq_true, beq_iff_eq] at hbreak
        rw [hbreak.1]
        exact isBlank_lineFeed
      rw [tidy_blank_cons (blank_reverse h), trimStart, List.dropWhile_cons_of_pos hc]
  | case3 before c rest hbreak ih =>
      by_cases hc : isBlank c = true
      · rw [ih (List.forall_mem_cons.mpr ⟨hc, h⟩), trimStart, trimStart,
          List.dropWhile_cons_of_pos hc]
      · have hstep : stretches (c :: before) rest = stretches before (c :: rest) := by
          rw [stretches, if_neg hbreak]
        rw [hstep, tidy_stretches_of_blank h, trimStart, List.dropWhile_cons_of_neg hc]

theorem paragraphs_trimStart (s : List Char) : paragraphs (trimStart s) = paragraphs s :=
  (tidy_stretches_trimStart (fun _ hc => absurd hc List.not_mem_nil) s).symm

theorem paragraphs_nil : paragraphs [] = [] := by
  rw [paragraphs, stretches]
  rfl

/-! ## What comes behind -/

theorem tidy_append_blanks (s : List Char) {w : List Char} (hw : ∀ c ∈ w, isBlank c = true) :
    tidy [s ++ w] = tidy [s] := by
  rw [tidy, tidy, List.map_singleton, List.map_singleton, trim_append_blanks s hw]

/-- A text that ends in blanks has no paragraph in them. -/
theorem tidy_stretches_blanks {w : List Char} (hw : ∀ c ∈ w, isBlank c = true) (before : List Char) :
    tidy (stretches before w) = tidy [before.reverse] := by
  have hnil : ∀ c ∈ ([] : List Char).head?, isBlank c = false := fun c hc => by cases hc
  rw [← List.append_nil w]
  by_cases hcount : w.count '\n' < 2
  · rw [stretches_blanks hw hnil hcount, stretches, List.reverse_append, List.reverse_reverse]
    exact tidy_append_blanks _ hw
  · obtain ⟨blanks, hblanks, heq⟩ := stretches_break hw hnil (Nat.le_of_not_lt hcount) before
    rw [heq, ← List.singleton_append, tidy_append, tidy_append_blanks _ hblanks, stretches]
    exact List.append_nil _

/--
What follows a text is read as it is behind blanks: the pass comes to it with nothing but blanks since
the last character of the text that is none.
-/
theorem tidy_stretches_append {t : List Char} {found : List (List Char)}
    (ht : ∀ before w, (∀ c ∈ w, isBlank c = true) →
      tidy (stretches before (w ++ t)) = tidy [before.reverse] ++ found)
    (before s : List Char) :
    tidy (stretches before (s ++ t)) = tidy (stretches before s) ++ found := by
  by_cases hs : s.dropWhile isBlank = []
  · have hblank : ∀ c ∈ s, isBlank c = true := List.dropWhile_eq_nil_iff.mp hs
    rw [ht before s hblank, tidy_stretches_blanks hblank]
  · fun_induction stretches before s with
    | case1 before => exact absurd rfl hs
    | case2 before c rest hbreak ih =>
        have hc : c = '\n' := by
          rw [Bool.and_eq_true, beq_iff_eq] at hbreak
          exact hbreak.1
        have hrest : rest.dropWhile isBlank ≠ [] := by
          rwa [hc, List.dropWhile_cons_of_pos isBlank_lineFeed] at hs
        have hvisible : trimStart (trimStart rest) ≠ [] := by
          rwa [trimStart_of_head (head?_trimStart rest)]
        obtain ⟨htake, hdrop⟩ := takeWhile_append_of_visible hrest t
        rw [List.cons_append, stretches, htake, if_pos hbreak, hdrop, ← List.singleton_append,
          tidy_append, ih hvisible, ← List.append_assoc, ← tidy_append]
        rfl
    | case3 before c rest hbreak ih =>
        have hstep : stretches before (c :: rest ++ t) = stretches (c :: before) (rest ++ t) := by
          by_cases hrest : rest.dropWhile isBlank = []
          · -- the character itself is no blank then
            refine stretches_cons_of_ne ?_ before (rest ++ t)
            rintro rfl
            rw [List.dropWhile_cons_of_pos isBlank_lineFeed] at hs
            exact hs hrest
          · obtain ⟨htake, _⟩ := takeWhile_append_of_visible hrest t
            rw [List.cons_append, stretches, htake, if_neg hbreak]
        rw [hstep]
        by_cases hrest : rest.dropWhile isBlank = []
        · have hblank : ∀ c ∈ rest, isBlank c = true := List.dropWhile_eq_nil_iff.mp hrest
          rw [ht (c :: before) rest hblank, tidy_stretches_blanks hblank]
        · exact ih hrest

theorem paragraphs_append_blanks (s : List Char) {w : List Char} (hw : ∀ c ∈ w, isBlank c = true) :
    paragraphs (s ++ w) = paragraphs s := by
  have hpass : ∀ before v, (∀ c ∈ v, isBlank c = true) →
      tidy (stretches before (v ++ w)) = tidy [before.reverse] ++ [] := by
    intro before v hv
    rw [List.append_nil]
    exact tidy_stretches_blanks (List.forall_mem_append.mpr ⟨hv, hw⟩) before
  have happend := tidy_stretches_append hpass [] s
  rw [List.append_nil] at happend
  exact happend

/-- **Trimming a text does not change its paragraphs.** -/
theorem paragraphs_trim (s : List Char) : paragraphs (trim s) = paragraphs s := by
  obtain ⟨w, hw, heq⟩ : ∃ w, (∀ c ∈ w, isBlank c = true) ∧ trimStart s = trim s ++ w := by
    refine ⟨((trimStart s).reverse.takeWhile isBlank).reverse, ?_, ?_⟩
    · exact blank_reverse fun c hc => List.mem_takeWhile_imp hc
    · rw [trim, trimEnd, ← List.reverse_append, List.takeWhile_append_dropWhile, List.reverse_reverse]
  rw [← paragraphs_append_blanks (trim s) hw, ← heq, paragraphs_trimStart]

/-- **A break between two texts keeps their paragraphs apart.** -/
theorem paragraphs_append_break (s : List Char) {w : List Char} (hw : ∀ c ∈ w, isBlank c = true)
    (hcount : 2 ≤ w.count '\n') (t : List Char) :
    paragraphs (s ++ (w ++ t)) = paragraphs s ++ paragraphs t := by
  refine tidy_stretches_append ?_ [] s
  intro before v hv
  have hrun : ∀ c ∈ v ++ (w ++ t.takeWhile isBlank), isBlank c = true :=
    List.forall_mem_append.mpr ⟨hv, List.forall_mem_append.mpr
      ⟨hw, fun c hc => List.mem_takeWhile_imp hc⟩⟩
  have hlong : 2 ≤ (v ++ (w ++ t.takeWhile isBlank)).count '\n' := by
    rw [List.count_append, List.count_append]
    omega
  have hsplit : v ++ (w ++ t) = v ++ (w ++ t.takeWhile isBlank) ++ trimStart t := by
    rw [trimStart, List.append_assoc, List.append_assoc, List.takeWhile_append_dropWhile]
  obtain ⟨blanks, hblanks, heq⟩ := stretches_break hrun (head?_trimStart t) hlong before
  rw [hsplit, heq, ← List.singleton_append, tidy_append, tidy_append_blanks _ hblanks,
    ← paragraphs_eq_tidy, paragraphs_trimStart]

theorem paragraphs_append_blankLine (s t : List Char) :
    paragraphs (s ++ (blankLine ++ t)) = paragraphs s ++ paragraphs t :=
  paragraphs_append_break s blank_blankLine (by decide) t

/-! ## Lines that belong together -/

/-- A line that is not blank and has no blank at either end. -/
structure SolidLine (s : List Char) : Prop where
  nonempty : s ≠ []
  trimmed : Trimmed s
  oneLine : '\n' ∉ s

/-- A line feed in front of a visible character does not end it either. -/
theorem stretches_lineFeed {t : List Char} (ht : ∀ c ∈ t.head?, isBlank c = false)
    (before : List Char) : stretches before ('\n' :: t) = stretches ('\n' :: before) t := by
  rw [stretches, takeWhile_of_head ht]
  rfl

theorem SolidLine.head?_append {line : List Char} (h : SolidLine line) (t : List Char) :
    ∀ c ∈ (line ++ t).head?, isBlank c = false := by
  rw [List.head?_append_of_ne_nil line h.nonempty]
  exact h.trimmed.head

theorem head?_joinWith_solid {line : List Char} {lines : List (List Char)} (h : SolidLine line) :
    ∀ c ∈ (joinWith ['\n'] (line :: lines)).head?, isBlank c = false := by
  cases lines with
  | nil => exact h.trimmed.head
  | cons next lines =>
      rw [joinWith_cons]
      exact h.head?_append _

theorem getLast?_joinWith_solid {line : List Char} {lines : List (List Char)}
    (h : ∀ l ∈ line :: lines, SolidLine l) :
    ∀ c ∈ (joinWith ['\n'] (line :: lines)).getLast?, isBlank c = false := by
  induction lines generalizing line with
  | nil => exact (h line List.mem_cons_self).trimmed.last
  | cons next lines ih =>
      have hrest : ∀ l ∈ next :: lines, SolidLine l := (List.forall_mem_cons.mp h).2
      have hne : joinWith ['\n'] (next :: lines) ≠ [] :=
        joinWith_ne_nil (List.cons_ne_nil next lines) fun l hl => (hrest l hl).nonempty
      rw [joinWith_cons, List.getLast?_append_of_ne_nil _ (List.cons_ne_nil _ _),
        List.getLast?_cons_of_ne_nil hne]
      exact ih hrest

theorem stretches_solid {line : List Char} {lines : List (List Char)}
    (h : ∀ l ∈ line :: lines, SolidLine l) (before : List Char) :
    stretches before (joinWith ['\n'] (line :: lines))
      = [before.reverse ++ joinWith ['\n'] (line :: lines)] := by
  induction lines generalizing line before with
  | nil =>
      have hpass := stretches_line (h line List.mem_cons_self).oneLine before []
      rw [List.append_nil, stretches, List.reverse_append, List.reverse_reverse] at hpass
      exact hpass
  | cons next lines ih =>
      obtain ⟨hline, hrest⟩ := List.forall_mem_cons.mp h
      have hnext : ∀ c ∈ (joinWith ['\n'] (next :: lines)).head?, isBlank c = false :=
        head?_joinWith_solid (hrest next List.mem_cons_self)
      rw [joinWith_cons, stretches_line hline.oneLine, stretches_lineFeed hnext, ih hrest]
      simp

/-- **Lines without a blank one between them are one paragraph.** -/
theorem paragraphs_solid {lines : List (List Char)} (hne : lines ≠ [])
    (h : ∀ l ∈ lines, SolidLine l) :
    paragraphs (joinWith ['\n'] lines) = [joinWith ['\n'] lines] := by
  obtain ⟨line, lines, rfl⟩ := List.exists_cons_of_ne_nil hne
  have htext : joinWith ['\n'] (line :: lines) ≠ [] :=
    joinWith_ne_nil hne fun l hl => (h l hl).nonempty
  have htrim : trim (joinWith ['\n'] (line :: lines)) = joinWith ['\n'] (line :: lines) := by
    rw [trim_of_last (getLast?_joinWith_solid h),
      trimStart_of_head (head?_joinWith_solid (h line List.mem_cons_self))]
  rw [paragraphs, stretches_solid h, List.reverse_nil, List.nil_append, List.map_singleton, htrim,
    List.filter_cons_of_pos (by rw [List.isEmpty_eq_false_iff.mpr htext]; rfl)]
  rfl

end Grounded.Text
