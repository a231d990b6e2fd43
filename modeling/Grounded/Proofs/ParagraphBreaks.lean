import Mathlib.Data.List.SplitBy
import Grounded.Proofs.Trimming
import Grounded.Text.Paragraph

/-!
# Paragraphs by their breaks

Paragraphs are found in one pass that looks ahead at every line feed. Here they are described without a
pass: a text consists of runs, of blanks and of other characters in turn; a run of blanks with at least
two line feeds is a break; and the paragraphs are what stands between the breaks, trimmed, as far as
anything is left of it. `paragraphs_eq` is the equality of the two.
-/

namespace Grounded.Text

/-! ## Runs and breaks -/

/-- The runs of blanks and of other characters, in turn. -/
def runs (s : List Char) : List (List Char) := s.splitBy fun a b => isBlank a == isBlank b

/-- Whether a run is a paragraph break: blanks, at least two line feeds among them. -/
def isBreak (run : List Char) : Bool := run.all isBlank && 2 ≤ run.count '\n'

/-- What stands between the breaks of a text. -/
def betweenBreaks (s : List Char) : List (List Char) :=
  ((runs s).splitOnP isBreak).map List.flatten

/-- What is left of stretches when they are trimmed and the empty ones left out. -/
def tidy (stretches : List (List Char)) : List (List Char) :=
  (stretches.map trim).filter (!·.isEmpty)

theorem paragraphs_eq_tidy (s : List Char) : paragraphs s = tidy (stretches [] s) := rfl

/-- A paragraph is no empty text and has no blanks at its ends. -/
theorem of_mem_paragraphs {s p : List Char} (h : p ∈ paragraphs s) : p ≠ [] ∧ Trimmed p := by
  obtain ⟨hmem, hne⟩ := List.mem_filter.mp h
  obtain ⟨stretch, _, rfl⟩ := List.mem_map.mp hmem
  refine ⟨?_, trimmed_trim stretch⟩
  rwa [Bool.not_eq_true', List.isEmpty_eq_false_iff] at hne

/-! ## One pass over the runs -/

theorem stretches_cons_of_ne {c : Char} (h : c ≠ '\n') (before rest : List Char) :
    stretches before (c :: rest) = stretches (c :: before) rest := by
  rw [stretches, if_neg]
  rw [Bool.and_eq_true, beq_iff_eq]
  exact fun hc => h hc.1

/-- The blanks at the start of a text are those of a run that nothing blank follows. -/
theorem takeWhile_run {w t : List Char} (hw : ∀ c ∈ w, isBlank c = true)
    (ht : ∀ c ∈ t.head?, isBlank c = false) :
    (w ++ t).takeWhile isBlank = w ∧ (w ++ t).dropWhile isBlank = t := by
  have hrest : t.dropWhile isBlank = t := trimStart_of_head ht
  rw [List.takeWhile_append_of_pos hw, List.dropWhile_append_of_pos hw, takeWhile_of_head ht, hrest,
    List.append_nil]
  exact ⟨rfl, rfl⟩

/-- Only a line feed can end a stretch. -/
theorem stretches_line {s : List Char} (h : '\n' ∉ s) (before t : List Char) :
    stretches before (s ++ t) = stretches (s.reverse ++ before) t := by
  induction s generalizing before with
  | nil => rfl
  | cons c s ih =>
      rw [List.mem_cons, not_or] at h
      rw [List.cons_append, stretches_cons_of_ne (Ne.symm h.1), ih h.2, List.reverse_cons,
        List.append_assoc]
      rfl

/-- A run of other characters belongs to its stretch. -/
theorem stretches_word {w : List Char} (hw : ∀ c ∈ w, isBlank c = false) (before t : List Char) :
    stretches before (w ++ t) = stretches (w.reverse ++ before) t :=
  stretches_line (fun h => absurd (hw '\n' h) (by decide)) before t

/-- So does a run of blanks that is no break. -/
theorem stretches_blanks {w t : List Char} (hw : ∀ c ∈ w, isBlank c = true)
    (ht : ∀ c ∈ t.head?, isBlank c = false) (hcount : w.count '\n' < 2) (before : List Char) :
    stretches before (w ++ t) = stretches (w.reverse ++ before) t := by
  induction w generalizing before with
  | nil => rfl
  | cons c w ih =>
      have hblank : ∀ d ∈ w, isBlank d = true := fun d hd => hw d (List.mem_cons_of_mem _ hd)
      have hstep : stretches before (c :: (w ++ t)) = stretches (c :: before) (w ++ t) := by
        by_cases hc : c = '\n'
        · -- the only line feed of the run
          subst hc
          have hnone : ¬ (w.contains '\n') = true := by
            rw [List.contains_iff_mem]
            intro hmem
            have hpos : 0 < w.count '\n' := List.count_pos_iff.mpr hmem
            rw [List.count_cons_self] at hcount
            omega
          rw [stretches, (takeWhile_run hblank ht).1, if_neg]
          rw [Bool.and_eq_true]
          exact fun h => hnone h.2
        · exact stretches_cons_of_ne hc before (w ++ t)
      have hrest : w.count '\n' < 2 := Nat.lt_of_le_of_lt List.count_le_count_cons hcount
      rw [List.cons_append, hstep, ih hblank hrest, List.reverse_cons, List.append_assoc]
      rfl

/-- A break ends a stretch, which at most gets some of its blanks, and another one begins behind it. -/
theorem stretches_break {w t : List Char} (hw : ∀ c ∈ w, isBlank c = true)
    (ht : ∀ c ∈ t.head?, isBlank c = false) (hcount : 2 ≤ w.count '\n') (before : List Char) :
    ∃ blanks, (∀ c ∈ blanks, isBlank c = true) ∧
      stretches before (w ++ t) = (before.reverse ++ blanks) :: stretches [] t := by
  induction w generalizing before with
  | nil => exact absurd hcount (by decide)
  | cons c w ih =>
      have hblank : ∀ d ∈ w, isBlank d = true := fun d hd => hw d (List.mem_cons_of_mem _ hd)
      by_cases hc : c = '\n'
      · -- the first line feed, with another one to follow
        subst hc
        have hmem : (w.contains '\n') = true := by
          rw [List.contains_iff_mem, ← List.count_pos_iff]
          rw [List.count_cons_self] at hcount
          omega
        refine ⟨[], fun c hc => absurd hc List.not_mem_nil, ?_⟩
        rw [List.cons_append, stretches, (takeWhile_run hblank ht).1, (takeWhile_run hblank ht).2,
          if_pos, List.append_nil]
        rw [Bool.and_eq_true]
        exact ⟨rfl, hmem⟩
      · rw [List.count_cons_of_ne hc] at hcount
        obtain ⟨blanks, hblanks, heq⟩ := ih hblank hcount (c :: before)
        refine ⟨c :: blanks, ?_, ?_⟩
        · intro d hd
          rcases List.mem_cons.mp hd with rfl | hd
          · exact hw d (by simp)
          · exact hblanks d hd
        · rw [List.cons_append, stretches_cons_of_ne hc, heq, List.reverse_cons, List.append_assoc]
          rfl

/-- All characters of the run are blank, or none is. -/
def Uniform (run : List Char) : Prop :=
  (∀ c ∈ run, isBlank c = true) ∨ ∀ c ∈ run, isBlank c = false

theorem uniform_of_isChain {run : List Char}
    (h : run.IsChain fun a b => (isBlank a == isBlank b) = true) : Uniform run := by
  induction run with
  | nil => exact Or.inl (fun c hc => absurd hc List.not_mem_nil)
  | cons c run ih =>
      obtain ⟨hhead, hrest⟩ := List.isChain_cons.mp h
      cases run with
      | nil =>
          cases hc : isBlank c with
          | true => exact Or.inl (fun d hd => by rw [List.mem_singleton.mp hd, hc])
          | false => exact Or.inr (fun d hd => by rw [List.mem_singleton.mp hd, hc])
      | cons d run =>
          have hcd : isBlank c = isBlank d := eq_of_beq (hhead d rfl)
          rcases ih hrest with hall | hall
          · exact Or.inl (List.forall_mem_cons.mpr ⟨hcd.trans (hall d (by simp)), hall⟩)
          · exact Or.inr (List.forall_mem_cons.mpr ⟨hcd.trans (hall d (by simp)), hall⟩)

/-- Runs as they follow one another: uniform, none empty, and a blank one never beside another. -/
structure Alternating (rs : List (List Char)) : Prop where
  nonempty : [] ∉ rs
  uniform : ∀ run ∈ rs, Uniform run
  chain : rs.IsChain fun a b => ∃ ha hb, (isBlank (a.getLast ha) == isBlank (b.head hb)) = false

theorem alternating_runs (s : List Char) : Alternating (runs s) :=
  ⟨List.nil_notMem_splitBy _ s, fun _ h => uniform_of_isChain (List.isChain_of_mem_splitBy h),
    List.isChain_getLast_head_splitBy (fun a b => isBlank a == isBlank b) s⟩

theorem Alternating.tail {run : List Char} {rs : List (List Char)} (h : Alternating (run :: rs)) :
    Alternating rs :=
  ⟨fun hmem => h.nonempty (List.mem_cons_of_mem _ hmem),
    fun r hr => h.uniform r (List.mem_cons_of_mem _ hr), (List.isChain_cons.mp h.chain).2⟩

/-- No blank follows a run of blanks. -/
theorem Alternating.head?_flatten {run : List Char} {rs : List (List Char)}
    (h : Alternating (run :: rs)) (hrun : ∀ c ∈ run, isBlank c = true) :
    ∀ c ∈ rs.flatten.head?, isBlank c = false := by
  intro c hc
  cases rs with
  | nil => cases hc
  | cons next rs =>
      obtain ⟨hlast, hnext, hne⟩ := (List.isChain_cons.mp h.chain).1 next rfl
      have hhead : (next :: rs).flatten.head? = some (next.head hnext) := by
        rw [List.flatten_cons, List.head?_append, List.head?_eq_some_head hnext]
        rfl
      rw [hhead] at hc
      rw [hrun _ (List.getLast_mem hlast)] at hne
      rw [← Option.some.inj hc]
      exact Bool.eq_false_iff.mpr (fun hblank => by rw [hblank] at hne; exact absurd hne (by decide))

theorem tidy_append (a b : List (List Char)) : tidy (a ++ b) = tidy a ++ tidy b := by
  rw [tidy, List.map_append, List.filter_append]
  rfl

/--
The pass over alternating runs finds what stands between the breaks, with what it has already read of
the first stretch.
-/
theorem tidy_stretches {rs : List (List Char)} (h : Alternating rs) (before : List Char) :
    tidy (stretches before rs.flatten)
      = tidy (((rs.splitOnP isBreak).map List.flatten).modifyHead (before.reverse ++ ·)) := by
  induction rs generalizing before with
  | nil =>
      rw [List.flatten_nil, stretches, List.splitOnP_nil, List.map_singleton, List.modifyHead_cons,
        List.flatten_nil, List.append_nil]
  | cons run rs ih =>
      obtain ⟨first, rest, hsplit⟩ : ∃ first rest, rs.splitOnP isBreak = first :: rest :=
        List.exists_cons_of_ne_nil (List.splitOnP_ne_nil isBreak rs)
      have hih := ih h.tail
      rw [hsplit, List.map_cons] at hih
      simp only [List.modifyHead_cons] at hih
      rw [List.flatten_cons, List.splitOnP_cons_eq_if_modifyHead, hsplit]
      by_cases hbreak : isBreak run = true
      · -- the stretch that was read so far ends here
        rw [isBreak, Bool.and_eq_true, List.all_eq_true, decide_eq_true_eq] at hbreak
        obtain ⟨hblank, hcount⟩ := hbreak
        obtain ⟨blanks, hblanks, heq⟩ :=
          stretches_break hblank (h.head?_flatten hblank) hcount before
        have hfirst : tidy [before.reverse ++ blanks] = tidy [before.reverse] := by
          rw [tidy, tidy, List.map_singleton, List.map_singleton, trim_append_blanks _ hblanks]
        have hif : isBreak run = true := by
          rw [isBreak, Bool.and_eq_true, List.all_eq_true, decide_eq_true_eq]
          exact ⟨hblank, hcount⟩
        rw [heq, if_pos hif, List.map_cons, List.modifyHead_cons, List.flatten_nil, List.append_nil,
          ← List.singleton_append, tidy_append, hfirst, hih [], ← tidy_append]
        rfl
      · -- the run belongs to the stretch
        have hpass : stretches before (run ++ rs.flatten)
            = stretches (run.reverse ++ before) rs.flatten := by
          rcases h.uniform run (by simp) with hblank | hword
          · refine stretches_blanks hblank (h.head?_flatten hblank) ?_ before
            rw [isBreak, Bool.and_eq_true, List.all_eq_true, decide_eq_true_eq] at hbreak
            exact Nat.lt_of_not_le (fun hcount => hbreak ⟨hblank, hcount⟩)
          · exact stretches_word hword before rs.flatten
        rw [hpass, hih (run.reverse ++ before), if_neg hbreak, List.modifyHead_cons, List.map_cons,
          List.modifyHead_cons, List.flatten_cons, List.reverse_append, List.reverse_reverse,
          List.append_assoc]

/-- **The paragraphs are what stands between the breaks,** trimmed and as far as anything is left. -/
theorem paragraphs_eq (s : List Char) : paragraphs s = tidy (betweenBreaks s) := by
  have hpass := tidy_stretches (alternating_runs s) []
  rw [runs, List.flatten_splitBy, ← runs, ← betweenBreaks] at hpass
  rw [paragraphs_eq_tidy, hpass]
  cases betweenBreaks s with
  | nil => rfl
  | cons first rest => rfl

end Grounded.Text
