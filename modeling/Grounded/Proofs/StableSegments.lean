import Grounded.Proofs.SegmentParagraphs

/-!
# Segments as texts

A segment is a text, and it can be segmented in its turn. It comes out as it is, because it is laid out as
segments are: its paragraphs stand in it with a blank line between each two, and nothing else is in it. For
the paragraphs of its group this is so by construction. What a segment takes over from the one before it may
be cut anywhere, within a paragraph or within a blank line, and is then trimmed. It is what `LaidOut` gives
for the end of a text that is laid out: the end of one of its paragraphs and the paragraphs behind it.
-/

namespace Grounded

/-! ## One paragraph -/

namespace Text

/-- No run of blanks within the text is a paragraph break. -/
def Unbroken (s : List Char) : Prop :=
  ∀ w, w <:+: s → (∀ c ∈ w, isBlank c = true) → w.count '\n' < 2

theorem Unbroken.mono {s t : List Char} (h : Unbroken t) (hs : s <:+: t) : Unbroken s :=
  fun w hw => h w (hw.trans hs)

theorem prefix_takeWhile {v s : List Char} (hv : v <+: s) (hblank : ∀ c ∈ v, isBlank c = true) :
    v <+: s.takeWhile isBlank := by
  obtain ⟨t, rfl⟩ := hv
  rw [List.takeWhile_append_of_pos hblank]
  exact List.prefix_append _ _

/-- A character that begins no break in a text begins none in the first part of the text either. -/
theorem Unbroken.cons {c : Char} {s rest : List Char} (h : Unbroken s) (hs : s <+: rest)
    (hc : ¬ (c == '\n' && (rest.takeWhile isBlank).contains '\n') = true) : Unbroken (c :: s) := by
  intro w hw hblank
  rcases List.infix_cons_iff.mp hw with hstart | hlater
  · rcases List.prefix_cons_iff.mp hstart with rfl | ⟨v, rfl, hv⟩
    · exact Nat.zero_lt_two
    · have hblanks : ∀ d ∈ v, isBlank d = true := (List.forall_mem_cons.mp hblank).2
      by_cases hfeed : c = '\n'
      · -- there is no other line feed among the blanks behind it
        subst hfeed
        have hnone : '\n' ∉ v := by
          intro hmem
          refine hc ?_
          rw [Bool.and_eq_true, List.contains_iff_mem]
          exact ⟨rfl, (prefix_takeWhile (hv.trans hs) hblanks).subset hmem⟩
        rw [List.count_cons_self, List.count_eq_zero.mpr hnone]
        exact Nat.one_lt_two
      · rw [List.count_cons_of_ne hfeed]
        exact h v hv.isInfix hblanks
  · exact h w hlater hblank

/-- The pass takes a text without a break as one stretch. -/
theorem stretches_of_unbroken {s : List Char} (h : Unbroken s) (before : List Char) :
    stretches before s = [before.reverse ++ s] := by
  induction s generalizing before with
  | nil => rw [stretches, List.append_nil]
  | cons c s ih =>
      have hc : ¬ (c == '\n' && (s.takeWhile isBlank).contains '\n') = true := by
        intro hbreak
        rw [Bool.and_eq_true, beq_iff_eq, List.contains_iff_mem] at hbreak
        obtain ⟨rfl, hmem⟩ := hbreak
        have hrun := h ('\n' :: s.takeWhile isBlank)
          ((List.prefix_cons_inj '\n').mpr (List.takeWhile_prefix isBlank)).isInfix
          (List.forall_mem_cons.mpr ⟨isBlank_lineFeed, fun d hd => List.mem_takeWhile_imp hd⟩)
        rw [List.count_cons_self] at hrun
        have hpos := List.count_pos_iff.mpr hmem
        omega
      rw [stretches, if_neg hc, ih (h.mono (List.suffix_cons c s).isInfix), List.reverse_cons,
        List.append_assoc]
      rfl

/-- The pass finds stretches without breaks; the first one goes on with what was read before. -/
theorem unbroken_stretches (before s : List Char) : ∃ first rest,
    stretches before s = (before.reverse ++ first) :: rest ∧ first <+: s ∧ Unbroken first ∧
      ∀ t ∈ rest, Unbroken t := by
  have hnil : Unbroken [] := by
    intro w hw _
    rw [List.infix_nil.mp hw]
    exact Nat.zero_lt_two
  fun_induction stretches before s with
  | case1 before =>
      refine ⟨[], [], ?_, List.prefix_rfl, hnil, fun t ht => absurd ht List.not_mem_nil⟩
      rw [List.append_nil]
  | case2 before c rest hbreak ih =>
      obtain ⟨first, others, heq, _, hfirst, hothers⟩ := ih
      refine ⟨[], first :: others, ?_, List.nil_prefix, hnil, ?_⟩
      · rw [heq, List.append_nil]
        rfl
      · exact List.forall_mem_cons.mpr ⟨hfirst, hothers⟩
  | case3 before c rest hbreak ih =>
      obtain ⟨first, others, heq, hstart, hfirst, hothers⟩ := ih
      refine ⟨c :: first, others, ?_, (List.prefix_cons_inj c).mpr hstart,
        hfirst.cons hstart hbreak, hothers⟩
      rw [heq, List.reverse_cons, List.append_assoc]
      rfl

/-- A text that is one paragraph as it stands. -/
structure OneParagraph (p : List Char) : Prop where
  nonempty : p ≠ []
  trimmed : Trimmed p
  unbroken : Unbroken p

theorem oneParagraph_of_mem {s p : List Char} (h : p ∈ paragraphs s) : OneParagraph p := by
  obtain ⟨hne, htrimmed⟩ := of_mem_paragraphs h
  refine ⟨hne, htrimmed, ?_⟩
  obtain ⟨stretch, hstretch, rfl⟩ := List.mem_map.mp (List.mem_filter.mp h).1
  obtain ⟨first, rest, heq, _, hfirst, hrest⟩ := unbroken_stretches [] s
  rw [heq] at hstretch
  exact (List.forall_mem_cons.mpr ⟨hfirst, hrest⟩ stretch hstretch).mono (isInfix_trim stretch)

theorem OneParagraph.paragraphs_eq {p : List Char} (h : OneParagraph p) : paragraphs p = [p] := by
  have htrim : trim p = p := by
    rw [trim_of_last h.trimmed.last, trimStart_of_head h.trimmed.head]
  rw [paragraphs, stretches_of_unbroken h.unbroken, List.reverse_nil, List.nil_append,
    List.map_singleton, htrim,
    List.filter_cons_of_pos (by rw [List.isEmpty_eq_false_iff.mpr h.nonempty]; rfl)]
  rfl

/-- The end of a paragraph, without the blanks at its start, is a paragraph. -/
theorem OneParagraph.trimStart_suffix {p u : List Char} (h : OneParagraph p) (hu : u <:+ p)
    (hne : u ≠ []) : OneParagraph (trimStart u) := by
  have hvisible := trimStart_ne_nil_of_suffix h.trimmed hu hne
  have hsuffix : trimStart u <:+ p := (List.dropWhile_suffix isBlank).trans hu
  refine ⟨hvisible, ⟨head?_trimStart u, ?_⟩, h.unbroken.mono hsuffix.isInfix⟩
  obtain ⟨t, rfl⟩ := hsuffix
  intro c hc
  refine h.trimmed.last c ?_
  rwa [List.getLast?_append_of_ne_nil t hvisible]

end Text

namespace Segmenter

open Text

/-! ## Texts that are laid out -/

/-- The text is its paragraphs with a blank line between each two. -/
def LaidOut (s : List Char) : Prop := joined (paragraphs s) = s

theorem paragraphs_joined {ps : List (List Char)} (h : ∀ p ∈ ps, OneParagraph p) :
    paragraphs (joined ps) = ps := by
  induction ps with
  | nil => exact paragraphs_nil
  | cons p ps ih =>
      obtain ⟨hp, hps⟩ := List.forall_mem_cons.mp h
      cases ps with
      | nil => rw [joined_singleton, hp.paragraphs_eq]
      | cons q ps =>
          rw [joined_cons p (List.cons_ne_nil q ps), paragraphs_append_blankLine, ih hps, hp.paragraphs_eq]
          rfl

theorem laidOut_joined {ps : List (List Char)} (h : ∀ p ∈ ps, OneParagraph p) :
    LaidOut (joined ps) := by
  rw [LaidOut, paragraphs_joined h]

theorem LaidOut.paragraphs_ne_nil {s : List Char} (h : LaidOut s) (hne : s ≠ []) :
    paragraphs s ≠ [] := by
  intro hnone
  rw [LaidOut, hnone] at h
  exact hne h.symm

/-- Behind a text that is laid out, so is what follows a blank line. -/
theorem LaidOut.append {s : List Char} (h : LaidOut s) (hne : s ≠ []) {group : List (List Char)}
    (hgroup : group ≠ []) (hps : ∀ p ∈ group, OneParagraph p) :
    LaidOut (s ++ (blankLine ++ joined group)) := by
  have hparagraphs := h.paragraphs_ne_nil hne
  rw [LaidOut] at h
  rw [← h, ← joined_append hparagraphs hgroup]
  exact laidOut_joined (List.forall_mem_append.mpr ⟨fun p hp => oneParagraph_of_mem hp, hps⟩)

/-- The end of two texts put together begins in the second one or in the first one. -/
theorem suffix_append_cases {u s t : List Char} (h : u <:+ s ++ t) :
    u <:+ t ∨ ∃ v, v <:+ s ∧ u = v ++ t := by
  rcases List.suffix_or_suffix_of_suffix h (List.suffix_append s t) with hlate | ⟨v, rfl⟩
  · exact Or.inl hlate
  · obtain ⟨before, heq⟩ := h
    rw [← List.append_assoc] at heq
    exact Or.inr ⟨v, ⟨before, List.append_cancel_right heq⟩, rfl⟩

theorem laidOut_trimStart_suffix_joined {ps : List (List Char)} (h : ∀ p ∈ ps, OneParagraph p)
    {u : List Char} (hu : u <:+ joined ps) : LaidOut (trimStart u) := by
  have hnil : LaidOut (trimStart []) := laidOut_joined (fun p hp => absurd hp List.not_mem_nil)
  induction ps generalizing u with
  | nil =>
      rw [List.suffix_nil.mp hu]
      exact hnil
  | cons p ps ih =>
      obtain ⟨hp, hps⟩ := List.forall_mem_cons.mp h
      cases ps with
      | nil =>
          rw [joined_singleton] at hu
          by_cases hne : u = []
          · rw [hne]
            exact hnil
          · rw [← joined_singleton (trimStart u)]
            exact laidOut_joined (List.forall_mem_singleton.mpr (hp.trimStart_suffix hu hne))
      | cons q ps =>
          rw [joined_cons p (List.cons_ne_nil q ps)] at hu
          -- blanks in front of the paragraphs that are left do not count
          have hblanks : ∀ w, (∀ c ∈ w, isBlank c = true) →
              LaidOut (trimStart (w ++ joined (q :: ps))) := by
            intro w hw
            rw [trimStart, List.dropWhile_append_of_pos hw]
            exact ih hps List.suffix_rfl
          rcases suffix_append_cases hu with hbehind | ⟨v, hv, rfl⟩
          · rcases suffix_append_cases hbehind with hlater | ⟨w, hw, rfl⟩
            · exact ih hps hlater
            · exact hblanks w fun c hc => blank_blankLine c (hw.subset hc)
          · by_cases hne : v = []
            · rw [hne, List.nil_append]
              exact hblanks blankLine blank_blankLine
            · -- the text is cut within its first paragraph
              have hcut := hp.trimStart_suffix hv hne
              rw [trimStart_append_of_ne_nil hcut.nonempty, ← joined_cons _ (List.cons_ne_nil q ps)]
              exact laidOut_joined (List.forall_mem_cons.mpr ⟨hcut, hps⟩)

/-- **The end of a text that is laid out is laid out,** wherever it is cut off, once it is trimmed. -/
theorem LaidOut.trimStart_suffix {s u : List Char} (h : LaidOut s) (hu : u <:+ s) :
    LaidOut (trimStart u) := by
  rw [LaidOut] at h
  rw [← h] at hu
  exact laidOut_trimStart_suffix_joined (fun p hp => oneParagraph_of_mem hp) hu

/-! ## Segments are laid out -/

theorem LaidOut.segment_of_group {closed : List Char} (h : LaidOut closed) (hne : closed ≠ [])
    (ht : Trimmed closed) (g : Segmenter) (first : List Char) {group : List (List Char)}
    (hgroup : group ≠ []) (hps : ∀ p ∈ group, OneParagraph p) :
    LaidOut (g.lead closed first ++ joined group) := by
  rw [lead]
  split
  · rename_i htaken
    rw [List.append_assoc]
    exact (h.trimStart_suffix (List.drop_suffix _ closed)).append
      (trimStart_overlapOf_ne_nil htaken.1 hne ht) hgroup hps
  · exact laidOut_joined hps

theorem laidOut_segmentsAfter (g : Segmenter) {groups : List (List (List Char))}
    (hgroups : ∀ group ∈ groups, group ≠ [] ∧ ∀ p ∈ group, OneParagraph p) {closed : List Char}
    (hclosed : LaidOut closed)
    (hsound : ∀ s ∈ closed :: g.segmentsAfter closed groups, s ≠ [] ∧ Trimmed s) :
    ∀ s ∈ g.segmentsAfter closed groups, LaidOut s := by
  induction groups generalizing closed with
  | nil => exact fun s hs => absurd hs List.not_mem_nil
  | cons group groups ih =>
      obtain ⟨⟨hgroup, hps⟩, hrest⟩ := List.forall_mem_cons.mp hgroups
      obtain ⟨⟨hne, ht⟩, hlater⟩ := List.forall_mem_cons.mp hsound
      have hnext : LaidOut (g.lead closed (group.headD []) ++ joined group) :=
        hclosed.segment_of_group hne ht g _ hgroup hps
      exact List.forall_mem_cons.mpr ⟨hnext, ih hrest hnext hlater⟩

/-- **Every segment is laid out,** whatever it has taken over. -/
theorem laidOut_of_mem_segment {g : Segmenter} {text s : List Char} (h : s ∈ g.segment text) :
    LaidOut s := by
  have hgood : ∀ s ∈ g.segment text, s ≠ [] ∧ Trimmed s := by
    intro s hs
    obtain ⟨_, _, hsound⟩ := exists_sound hs
    exact ⟨hsound.nonempty, hsound.trimmed⟩
  obtain ⟨groups, hflat, hgroups, hsegment, _⟩ := g.segment_eq text
  have hparagraphs : ∀ group ∈ groups, group ≠ [] ∧ ∀ p ∈ group, OneParagraph p := by
    intro group hgroup
    refine ⟨hgroups group hgroup, fun p hp => oneParagraph_of_mem (s := text) ?_⟩
    rw [← hflat]
    exact List.mem_flatten_of_mem hgroup hp
  rw [hsegment] at h hgood
  cases groups with
  | nil => exact absurd h List.not_mem_nil
  | cons group groups =>
      obtain ⟨⟨_, hps⟩, hrest⟩ := List.forall_mem_cons.mp hparagraphs
      have hall : ∀ s ∈ joined group :: g.segmentsAfter (joined group) groups, LaidOut s :=
        List.forall_mem_cons.mpr ⟨laidOut_joined hps,
          g.laidOut_segmentsAfter hrest (laidOut_joined hps) hgood⟩
      exact hall s h

/-! ## Segmenting what is laid out -/

/-- The open segment and the next paragraph can be joined first. -/
theorem joined_merged (current p : List Char) (ps : List (List Char)) :
    joined ((current ++ blankLine ++ p) :: ps) = joined (current :: p :: ps) := by
  rw [joined_cons current (List.cons_ne_nil p ps)]
  cases ps with
  | nil => rw [joined_singleton, joined_singleton, List.append_assoc]
  | cons q ps =>
      rw [joined_cons _ (List.cons_ne_nil q ps), joined_cons p (List.cons_ne_nil q ps),
        List.append_assoc, List.append_assoc]

/-- Paragraphs that fit the bound all together are one segment. -/
theorem pack_of_fits (g : Segmenter) {current : List Char} {ps : List (List Char)}
    (h : (joined (current :: ps)).length ≤ g.maxChars) :
    g.pack current ps = [trim (joined (current :: ps))] := by
  induction ps generalizing current with
  | nil => rw [pack, joined_singleton]
  | cons p ps ih =>
      rw [← joined_merged] at h
      have hfits : ¬ g.maxChars < current.length + p.length + 2 := by
        have hopen := (infix_joined (p := current ++ blankLine ++ p)
          (List.mem_cons_self (l := ps))).length_le
        rw [List.length_append, List.length_append] at hopen
        have htwo : blankLine.length = 2 := rfl
        omega
      rw [pack, if_neg hfits, ih h, joined_merged]

theorem LaidOut.segment_eq {s : List Char} (h : LaidOut s) (hne : s ≠ []) (ht : Trimmed s)
    {g : Segmenter} (hfits : s.length ≤ g.maxChars) : g.segment s = [s] := by
  have htrim : trim s = s := by rw [trim_of_last ht.last, trimStart_of_head ht.head]
  obtain ⟨p, ps, hps⟩ := List.exists_cons_of_ne_nil (h.paragraphs_ne_nil hne)
  rw [LaidOut, hps] at h
  rw [← h] at hfits
  rw [segment, hps]
  dsimp only
  rw [g.pack_of_fits hfits, h, htrim]

/-- A paragraph of any length is one segment. -/
theorem segment_paragraph {g : Segmenter} {p : List Char} (h : OneParagraph p) :
    g.segment p = [p] := by
  rw [segment, h.paragraphs_eq]
  dsimp only
  rw [pack, trim_of_last h.trimmed.last, trimStart_of_head h.trimmed.head]

/-- Without an overlap the segments are their groups, and nothing else. -/
theorem segmentsAfter_of_noOverlap {g : Segmenter} (h : g.overlapChars = 0) (closed : List Char)
    (groups : List (List (List Char))) : g.segmentsAfter closed groups = groups.map joined := by
  induction groups generalizing closed with
  | nil => rfl
  | cons group groups ih =>
      have hlead : g.lead closed (group.headD []) = [] := by
        rw [lead, if_neg (fun htaken => by omega)]
      rw [segmentsAfter, ih, hlead, List.map_cons, List.nil_append]

theorem segmentsOf_of_noOverlap {g : Segmenter} (h : g.overlapChars = 0)
    (groups : List (List (List Char))) : g.segmentsOf groups = groups.map joined := by
  cases groups with
  | nil => rfl
  | cons group groups => rw [segmentsOf, segmentsAfter_of_noOverlap h, List.map_cons]

theorem joined_map_joined {groups : List (List (List Char))} (h : ∀ group ∈ groups, group ≠ []) :
    joined (groups.map joined) = joined groups.flatten := by
  induction groups with
  | nil => rfl
  | cons group groups ih =>
      obtain ⟨hgroup, hgroups⟩ := List.forall_mem_cons.mp h
      cases groups with
      | nil => rw [List.map_singleton, joined_singleton, List.flatten_singleton]
      | cons next groups =>
          have hnext : (next :: groups).flatten ≠ [] := by
            rw [List.flatten_cons]
            exact List.append_ne_nil_of_left_ne_nil (hgroups next List.mem_cons_self) _
          rw [List.map_cons, List.flatten_cons, joined_append hgroup hnext, ← ih hgroups, List.map_cons,
            joined_cons _ (List.cons_ne_nil _ _)]

/--
**Segments are segmented no further.** Each segment of a text, segmented with the same bounds, is itself the only
segment. And if nothing is taken over, the segments of a text with a blank line between each two of them have the
same segments again.
-/
theorem segment_stable (g : Segmenter) (text : List Char) :
    (∀ s ∈ g.segment text, g.segment s = [s]) ∧
      (g.overlapChars = 0 → g.segment (joined (g.segment text)) = g.segment text) := by
  refine ⟨fun s hs => ?_, fun hnone => ?_⟩
  · obtain ⟨group, hgroup, hsound⟩ := exists_sound hs
    by_cases hlong : g.maxChars < s.length
    · -- then it is one of the paragraphs
      have hmem : s ∈ group := by
        rw [hsound.fits hlong]
        exact List.mem_singleton_self s
      exact segment_paragraph (oneParagraph_of_mem (hgroup s hmem))
    · exact (laidOut_of_mem_segment hs).segment_eq hsound.nonempty hsound.trimmed
        (Nat.le_of_not_lt hlong)
  · obtain ⟨groups, hflat, hgroups, hsegment, _⟩ := g.segment_eq text
    refine g.segment_congr ?_
    rw [hsegment, segmentsOf_of_noOverlap hnone, joined_map_joined hgroups, hflat]
    exact paragraphs_joined fun p hp => oneParagraph_of_mem hp

/--
Three segments, the second with an overlap that was cut within a blank line and the third with one that was cut
within a paragraph; and two segments without an overlap.
-/
theorem segment_stable_cut :
    "c\n\ndd e".toList ∈ (⟨10, 3⟩ : Segmenter).segment "ab\n\nc\n\ndd e\n\nfffff".toList ∧
      (⟨10, 3⟩ : Segmenter).segment "c\n\ndd e".toList = ["c\n\ndd e".toList] ∧
      (⟨5, 0⟩ : Segmenter).overlapChars = 0 ∧
      (⟨5, 0⟩ : Segmenter).segment (joined ((⟨5, 0⟩ : Segmenter).segment "ab \n \n c\n\n\nd".toList))
        = (⟨5, 0⟩ : Segmenter).segment "ab \n \n c\n\n\nd".toList := by
  have hmem : "c\n\ndd e".toList
      ∈ (⟨10, 3⟩ : Segmenter).segment "ab\n\nc\n\ndd e\n\nfffff".toList := by
    have hsegments : (⟨10, 3⟩ : Segmenter).segment "ab\n\nc\n\ndd e\n\nfffff".toList
        = ["ab\n\nc".toList, "c\n\ndd e".toList, "d e\n\nfffff".toList] := by cbv
    rw [hsegments]
    exact List.mem_cons_of_mem _ List.mem_cons_self
  exact ⟨hmem, (segment_stable ⟨10, 3⟩ _).1 _ hmem, rfl, (segment_stable ⟨5, 0⟩ _).2 rfl⟩

end Segmenter

end Grounded
