import Mathlib.Data.List.Forall2
import Grounded.Chunk.Segmenter
import Grounded.Proofs.ParagraphBreaks

/-!
# Segments by their groups

A segmenter keeps one open segment, in which the overlap and the paragraphs are no longer told apart. To
say what its segments hold, the paragraphs are put into groups: `segmentsOf` gives the segments of any
groups, the first with its group alone and every other one with what it takes over from the one before.
`Opened` ties the open segment to its group, and `pack_eq` carries this through the loop. The segments
of a text are those of some groups that hold its paragraphs, each of them once and in order. `Filled` says
why one group ends and another begins: there was no room left, blanks at the start of the overlap included.
-/

namespace Grounded.Segmenter

open Text

/-! ## The segments of groups -/

/-- The paragraphs of a group, with a blank line between each two. -/
def joined (group : List (List Char)) : List Char := blankLine.intercalate group

/-- The last characters of a segment, as many as the overlap asks for and the segment has. -/
def overlapOf (g : Segmenter) (closed : List Char) : List Char :=
  closed.drop (closed.length - min g.overlapChars closed.length)

/--
What a segment takes over from the one before it, if this fits the bound together with the first
paragraph of its group. The overlap is measured as it is cut and loses the blanks at its start.
-/
def lead (g : Segmenter) (closed first : List Char) : List Char :=
  if 0 < g.overlapChars ∧ (g.overlapOf closed).length + 2 + first.length ≤ g.maxChars then
    trimStart (g.overlapOf closed) ++ blankLine
  else []

/-- The segments of groups that come after a closed segment. -/
def segmentsAfter (g : Segmenter) (closed : List Char) :
    List (List (List Char)) → List (List Char)
  | [] => []
  | group :: groups =>
    let segment := g.lead closed (group.headD []) ++ joined group
    segment :: segmentsAfter g segment groups

/-- The segments of groups. -/
def segmentsOf (g : Segmenter) : List (List (List Char)) → List (List Char)
  | [] => []
  | group :: groups => joined group :: g.segmentsAfter (joined group) groups

/--
The blanks that a segment loses at the start of what it takes over. While it is filled, they count for its
length.
-/
def lostBlanks (g : Segmenter) (closed first : List Char) : Nat :=
  if 0 < g.overlapChars ∧ (g.overlapOf closed).length + 2 + first.length ≤ g.maxChars then
    ((g.overlapOf closed).takeWhile isBlank).length
  else 0

/--
Behind a closed segment, which has lost some blanks, and behind each further one but the last there was no
room for the first paragraph of the next group.
-/
def Filled (g : Segmenter) (lost : Nat) (closed : List Char) : List (List (List Char)) → Prop
  | [] => True
  | group :: groups =>
    g.maxChars < closed.length + lost + 2 + (group.headD []).length ∧
      Filled g (g.lostBlanks closed (group.headD []))
        (g.lead closed (group.headD []) ++ joined group) groups

theorem length_segmentsAfter (g : Segmenter) (closed : List Char)
    (groups : List (List (List Char))) : (g.segmentsAfter closed groups).length = groups.length := by
  induction groups generalizing closed with
  | nil => rfl
  | cons group groups ih => rw [segmentsAfter, List.length_cons, List.length_cons, ih]

theorem length_segmentsOf (g : Segmenter) (groups : List (List (List Char))) :
    (g.segmentsOf groups).length = groups.length := by
  cases groups with
  | nil => rfl
  | cons group groups =>
      rw [segmentsOf, List.length_cons, List.length_cons, length_segmentsAfter]

/-- What can be said of the segment of one group: only a paragraph on its own may exceed the bound. -/
structure Sound (g : Segmenter) (group : List (List Char)) (segment : List Char) : Prop where
  nonempty : segment ≠ []
  trimmed : Trimmed segment
  fits : g.maxChars < segment.length → group = [segment]

theorem joined_singleton (p : List Char) : joined [p] = p := List.intercalate_singleton

theorem joined_cons (p : List Char) {ps : List (List Char)} (h : ps ≠ []) :
    joined (p :: ps) = p ++ (blankLine ++ joined ps) := by
  rw [joined, List.intercalate_cons_of_ne_nil h, List.append_assoc, ← joined]

theorem joined_append {front back : List (List Char)} (hfront : front ≠ []) (hback : back ≠ []) :
    joined (front ++ back) = joined front ++ (blankLine ++ joined back) := by
  induction front with
  | nil => exact absurd rfl hfront
  | cons p front ih =>
      rw [List.cons_append, joined_cons p (List.append_ne_nil_of_right_ne_nil front hback)]
      cases front with
      | nil => rw [List.nil_append, joined_singleton]
      | cons q front =>
          rw [ih (List.cons_ne_nil q front), joined_cons p (List.cons_ne_nil q front),
            List.append_assoc, List.append_assoc]

theorem joined_concat {group : List (List Char)} (h : group ≠ []) (p : List Char) :
    joined (group ++ [p]) = joined group ++ (blankLine ++ p) := by
  rw [joined_append h (List.cons_ne_nil p []), joined_singleton]

/-! ## The overlap -/

theorem tailChars_eq (g : Segmenter) (closed : List Char) :
    tailChars g.overlapChars closed = g.overlapOf closed := by
  have hlength : closed.length - g.overlapChars
      = closed.length - min g.overlapChars closed.length := by omega
  rw [tailChars, overlapOf, hlength]

/-- A new segment begins with the overlap, a blank line and the paragraph, or with the paragraph. -/
theorem seed_eq (g : Segmenter) (closed p : List Char) :
    g.seed closed p
      = if 0 < g.overlapChars ∧ (g.overlapOf closed).length + 2 + p.length ≤ g.maxChars then
          g.overlapOf closed ++ (blankLine ++ p)
        else p := by
  rw [seed, tailChars_eq]
  dsimp only
  by_cases hzero : g.overlapChars = 0
  · rw [if_pos hzero, if_neg (fun h => by omega)]
  · by_cases hlong : g.maxChars < (g.overlapOf closed).length + 2 + p.length
    · rw [if_neg hzero, if_pos hlong, if_neg (fun h => by omega)]
    · rw [if_neg hzero, if_neg hlong, if_pos ⟨by omega, by omega⟩, List.append_assoc]

/-- The overlap with a segment is not blank, since the segment does not end in a blank. -/
theorem trimStart_overlapOf_ne_nil {g : Segmenter} (hg : 0 < g.overlapChars) {closed : List Char}
    (hne : closed ≠ []) (ht : Trimmed closed) : trimStart (g.overlapOf closed) ≠ [] := by
  have hpos : 0 < closed.length := List.length_pos_iff.mpr hne
  have hlt : closed.length - min g.overlapChars closed.length < closed.length := by omega
  refine trimStart_ne_nil_of_suffix ht (List.drop_suffix _ _) ?_
  rw [overlapOf, Ne, List.drop_eq_nil_iff]
  omega

/-! ## The open segment -/

/--
The open segment holds the lead and the paragraphs of its group so far. Blanks at its start count for
its length until it is closed.
-/
structure Opened (g : Segmenter) (current lead : List Char) (group : List (List Char)) : Prop where
  nonempty : group ≠ []
  text : trimStart current = lead ++ joined group
  visible : trimStart current ≠ []
  last : ∀ c ∈ current.getLast?, isBlank c = false
  fits : g.maxChars < current.length → lead = [] ∧ group = [current]

/-- The length that counts is that of the text without the blanks at its start, and those. -/
theorem Opened.length_eq {g : Segmenter} {current lead : List Char} {group : List (List Char)}
    (h : g.Opened current lead group) :
    current.length = (lead ++ joined group).length + (current.takeWhile isBlank).length := by
  rw [← h.text, trimStart, Nat.add_comm, ← List.length_append, List.takeWhile_append_dropWhile]

/-- A closed segment is what was open without the blanks at its start. -/
theorem Opened.trim_eq {g : Segmenter} {current lead : List Char} {group : List (List Char)}
    (h : g.Opened current lead group) : trim current = lead ++ joined group := by
  rw [trim_of_last h.last, h.text]

theorem Opened.sound {g : Segmenter} {current lead : List Char} {group : List (List Char)}
    (h : g.Opened current lead group) : g.Sound group (trim current) := by
  have htrim := trim_of_last h.last
  refine ⟨?_, trimmed_trim current, ?_⟩
  · rw [htrim]
    exact h.visible
  · intro hlong
    have hle : (trim current).length ≤ current.length := by
      rw [htrim]
      exact (List.dropWhile_sublist isBlank).length_le
    obtain ⟨rfl, hgroup⟩ := h.fits (Nat.lt_of_lt_of_le hlong hle)
    rw [h.trim_eq, hgroup, joined_singleton, List.nil_append]

/-- A text begins with its first paragraph alone. -/
theorem opened_first (g : Segmenter) {p : List Char} (hne : p ≠ []) (hp : Trimmed p) :
    g.Opened p [] [p] where
  nonempty := List.cons_ne_nil p []
  text := by rw [trimStart_of_head hp.head, joined_singleton, List.nil_append]
  visible := by rw [trimStart_of_head hp.head]; exact hne
  last := hp.last
  fits := fun _ => ⟨rfl, rfl⟩

/-- **A new segment opens with its lead and its first paragraph.** -/
theorem opened_seed (g : Segmenter) {closed p : List Char} (hclosed : closed ≠ [])
    (ht : Trimmed closed) (hne : p ≠ []) (hp : Trimmed p) :
    g.Opened (g.seed closed p) (g.lead closed p) [p] := by
  by_cases hseed : 0 < g.overlapChars ∧ (g.overlapOf closed).length + 2 + p.length ≤ g.maxChars
  · have hvisible := trimStart_overlapOf_ne_nil hseed.1 hclosed ht
    have htext : trimStart (g.overlapOf closed ++ (blankLine ++ p))
        = trimStart (g.overlapOf closed) ++ (blankLine ++ p) :=
      trimStart_append_of_ne_nil hvisible _
    rw [seed_eq, lead, if_pos hseed, if_pos hseed]
    refine ⟨List.cons_ne_nil p [], ?_, ?_, ?_, ?_⟩
    · rw [htext, joined_singleton, List.append_assoc]
    · rw [htext]
      exact List.append_ne_nil_of_left_ne_nil hvisible _
    · intro c hc
      rw [List.getLast?_append_of_ne_nil _ (List.append_ne_nil_of_right_ne_nil _ hne),
        List.getLast?_append_of_ne_nil _ hne] at hc
      exact hp.last c hc
    · intro hlong
      rw [List.length_append, List.length_append, blankLine] at hlong
      simp only [List.length_cons, List.length_nil] at hlong
      omega
  · rw [seed_eq, lead, if_neg hseed, if_neg hseed]
    exact g.opened_first hne hp

/-- The blanks at the start of a new segment are those of the overlap. -/
theorem takeWhile_seed (g : Segmenter) {closed p : List Char} (hclosed : closed ≠ [])
    (ht : Trimmed closed) (hp : Trimmed p) :
    ((g.seed closed p).takeWhile isBlank).length = g.lostBlanks closed p := by
  by_cases hseed : 0 < g.overlapChars ∧ (g.overlapOf closed).length + 2 + p.length ≤ g.maxChars
  · rw [seed_eq, lostBlanks, if_pos hseed, if_pos hseed,
      (takeWhile_append_of_visible (trimStart_overlapOf_ne_nil hseed.1 hclosed ht) _).1]
  · rw [seed_eq, lostBlanks, if_neg hseed, if_neg hseed, takeWhile_of_head hp.head]
    rfl

/-- **A paragraph that fits joins the open group.** -/
theorem Opened.append {g : Segmenter} {current lead p : List Char} {group : List (List Char)}
    (h : g.Opened current lead group) (hne : p ≠ []) (hp : Trimmed p)
    (hfits : ¬ g.maxChars < current.length + p.length + 2) :
    g.Opened (current ++ blankLine ++ p) lead (group ++ [p]) := by
  have htext : trimStart (current ++ (blankLine ++ p)) = trimStart current ++ (blankLine ++ p) :=
    trimStart_append_of_ne_nil h.visible _
  rw [List.append_assoc]
  refine ⟨List.append_ne_nil_of_left_ne_nil h.nonempty _, ?_, ?_, ?_, ?_⟩
  · rw [htext, h.text, joined_concat h.nonempty, List.append_assoc]
  · rw [htext]
    exact List.append_ne_nil_of_left_ne_nil h.visible _
  · intro c hc
    rw [List.getLast?_append_of_ne_nil _ (List.append_ne_nil_of_right_ne_nil _ hne),
      List.getLast?_append_of_ne_nil _ hne] at hc
    exact hp.last c hc
  · intro hlong
    rw [List.length_append, List.length_append, blankLine] at hlong
    simp only [List.length_cons, List.length_nil] at hlong
    omega

/--
**The loop gives the segments of groups:** the open group takes some of the paragraphs that are left, and
further groups take the others, none of them empty. A group begins where there was no room left for its first
paragraph.
-/
theorem pack_eq (g : Segmenter) {ps : List (List Char)} (hps : ∀ p ∈ ps, p ≠ [] ∧ Trimmed p)
    {current lead : List Char} {group : List (List Char)} (h : g.Opened current lead group) :
    ∃ more groups, more ++ groups.flatten = ps ∧ (∀ later ∈ groups, later ≠ []) ∧
      g.pack current ps = (lead ++ joined (group ++ more)) ::
        g.segmentsAfter (lead ++ joined (group ++ more)) groups ∧
      List.Forall₂ g.Sound ((group ++ more) :: groups) (g.pack current ps) ∧
      g.Filled (current.takeWhile isBlank).length (lead ++ joined (group ++ more)) groups := by
  induction ps generalizing current lead group with
  | nil =>
      refine ⟨[], [], rfl, fun later hl => absurd hl List.not_mem_nil, ?_, ?_, trivial⟩
      · rw [pack, h.trim_eq, List.append_nil]
        rfl
      · rw [List.append_nil, pack]
        exact .cons h.sound .nil
  | cons p ps ih =>
      obtain ⟨⟨hne, hp⟩, hrest⟩ := List.forall_mem_cons.mp hps
      by_cases hlong : g.maxChars < current.length + p.length + 2
      · -- the paragraph opens another group
        have hopen := g.opened_seed h.sound.nonempty h.sound.trimmed hne hp
        obtain ⟨more, groups, hflat, hgroups, hpack, hsound, hfilled⟩ := ih hrest hopen
        refine ⟨[], ([p] ++ more) :: groups, ?_, ?_, ?_, ?_, ?_, ?_⟩
        · rw [List.nil_append, List.flatten_cons, List.append_assoc, hflat, List.singleton_append]
        · exact List.forall_mem_cons.mpr ⟨List.cons_ne_nil p more, hgroups⟩
        · rw [pack, if_pos hlong, hpack, List.append_nil, h.trim_eq]
          rfl
        · rw [pack, if_pos hlong, List.append_nil]
          exact .cons h.sound hsound
        · rw [h.length_eq] at hlong
          rw [List.append_nil]
          show _ < _ + _ + 2 + p.length
          omega
        · rw [g.takeWhile_seed h.sound.nonempty h.sound.trimmed hp, h.trim_eq] at hfilled
          rw [List.append_nil]
          exact hfilled
      · -- the paragraph joins the open one
        obtain ⟨more, groups, hflat, hgroups, hpack, hsound, hfilled⟩ := ih hrest (h.append hne hp hlong)
        have hmore : group ++ [p] ++ more = group ++ (p :: more) := by
          rw [List.append_assoc, List.singleton_append]
        rw [hmore] at hpack hsound hfilled
        refine ⟨p :: more, groups, ?_, hgroups, ?_, ?_, ?_⟩
        · rw [List.cons_append, hflat]
        · rw [pack, if_neg hlong, hpack]
        · rw [pack, if_neg hlong]
          exact hsound
        · rw [List.append_assoc, (takeWhile_append_of_visible h.visible _).1] at hfilled
          exact hfilled

/-- The segments are filled, and the first one has lost no blanks. -/
def AllFilled (g : Segmenter) : List (List (List Char)) → Prop
  | [] => True
  | group :: groups => g.Filled 0 (joined group) groups

theorem segment_filled (g : Segmenter) (text : List Char) :
    ∃ groups : List (List (List Char)), groups.flatten = paragraphs text ∧
      (∀ group ∈ groups, group ≠ []) ∧ g.segment text = g.segmentsOf groups ∧
      List.Forall₂ g.Sound groups (g.segment text) ∧ g.AllFilled groups := by
  have hparagraphs : ∀ p ∈ paragraphs text, p ≠ [] ∧ Trimmed p := fun p hp => of_mem_paragraphs hp
  rw [segment]
  cases hps : paragraphs text with
  | nil => exact ⟨[], rfl, fun group hg => absurd hg List.not_mem_nil, rfl, .nil, trivial⟩
  | cons p ps =>
      rw [hps] at hparagraphs
      obtain ⟨⟨hne, hp⟩, hrest⟩ := List.forall_mem_cons.mp hparagraphs
      obtain ⟨more, groups, hflat, hgroups, hpack, hsound, hfilled⟩ :=
        g.pack_eq hrest (g.opened_first hne hp)
      rw [takeWhile_of_head hp.head] at hfilled
      refine ⟨([p] ++ more) :: groups, ?_, ?_, hpack, hsound, hfilled⟩
      · rw [List.flatten_cons, List.append_assoc, hflat, List.singleton_append]
      · exact List.forall_mem_cons.mpr ⟨List.cons_ne_nil p more, hgroups⟩

/-- **The segments of a text are those of groups of its paragraphs.** -/
theorem segment_eq (g : Segmenter) (text : List Char) :
    ∃ groups : List (List (List Char)), groups.flatten = paragraphs text ∧
      (∀ group ∈ groups, group ≠ []) ∧ g.segment text = g.segmentsOf groups ∧
      List.Forall₂ g.Sound groups (g.segment text) := by
  obtain ⟨groups, hflat, hgroups, hsegment, hsound, _⟩ := g.segment_filled text
  exact ⟨groups, hflat, hgroups, hsegment, hsound⟩

/-- Every segment is that of a group of paragraphs. -/
theorem exists_sound {g : Segmenter} {text s : List Char} (h : s ∈ g.segment text) :
    ∃ group : List (List Char), (∀ p ∈ group, p ∈ paragraphs text) ∧ g.Sound group s := by
  obtain ⟨groups, hflat, _, _, hsound⟩ := g.segment_eq text
  obtain ⟨n, hn, rfl⟩ := List.mem_iff_getElem.mp h
  have hgroup : n < groups.length := by rw [hsound.length_eq]; exact hn
  refine ⟨groups[n], fun p hp => ?_, hsound.get hgroup hn⟩
  rw [← hflat]
  exact List.mem_flatten_of_mem (List.getElem_mem hgroup) hp

-- the overlap is cut within the blank line, and only what is left of it is taken over
example : (⟨10, 3⟩ : Segmenter).segment "ab\n\nc\n\ndddd".toList
    = ["ab\n\nc".toList, "c\n\ndddd".toList] := by cbv

/-! ## Every text -/

/--
**No paragraph is lost, repeated or moved.** The paragraphs of a text, which are what stands between its
breaks, are put into groups, none of them empty, and each group gives one segment: its paragraphs joined
by blank lines, behind what it takes over from the segment before. No segment is empty or has a blank at
either end, and there is none exactly if there is no paragraph.
-/
theorem segment_conserves (g : Segmenter) (text : List Char) :
    ∃ groups : List (List (List Char)), groups.flatten = tidy (betweenBreaks text) ∧
      (∀ group ∈ groups, group ≠ []) ∧ g.segment text = g.segmentsOf groups ∧
      (g.segment text).length = groups.length ∧
      (∀ s ∈ g.segment text, s ≠ [] ∧ Trimmed s) ∧
      (g.segment text = [] ↔ tidy (betweenBreaks text) = []) := by
  obtain ⟨groups, hflat, hgroups, hsegment, hsound⟩ := g.segment_eq text
  rw [paragraphs_eq] at hflat
  have hlength : (g.segment text).length = groups.length := by
    rw [hsegment, length_segmentsOf]
  refine ⟨groups, hflat, hgroups, hsegment, hlength, ?_, ?_⟩
  · intro s hs
    obtain ⟨n, hn, rfl⟩ := List.mem_iff_getElem.mp hs
    have hgood := hsound.get (by omega) hn
    exact ⟨hgood.nonempty, hgood.trimmed⟩
  · rw [← hflat, ← List.length_eq_zero_iff, hlength, List.length_eq_zero_iff,
      List.flatten_eq_nil_iff]
    constructor
    · rintro rfl group hg
      exact absurd hg List.not_mem_nil
    · intro hempty
      cases groups with
      | nil => rfl
      | cons group groups => exact absurd (hempty group (by simp)) (hgroups group (by simp))

/--
**Only a paragraph on its own exceeds the bound.** A segment that is longer than the bound is all of its
group: one paragraph, with nothing taken over and no other paragraph. Every other segment fits, whatever
it takes over.
-/
theorem segment_bounded (g : Segmenter) (text : List Char) :
    ∃ groups : List (List (List Char)), groups.flatten = tidy (betweenBreaks text) ∧
      (∀ group ∈ groups, group ≠ []) ∧ g.segment text = g.segmentsOf groups ∧
      List.Forall₂ (fun group s => g.maxChars < s.length → group = [s]) groups (g.segment text) := by
  obtain ⟨groups, hflat, hgroups, hsegment, hsound⟩ := g.segment_eq text
  rw [paragraphs_eq] at hflat
  exact ⟨groups, hflat, hgroups, hsegment, hsound.imp (fun _ _ h => h.fits)⟩

end Grounded.Segmenter
